import Fitout.Proofs.Command.Outcome

/-!
# What a validation tells

A validation reads a file as every other command does, and then judges what came of it: a document
that cannot be read and a value that is refused are a verdict on the file, and any other failure is
passed on (`Failure.judged`). A merge of a file with itself makes the configuration of the file,
since a configuration on top of itself is itself (`Car.merge_self`). So the two succeed on the same
files, and they tell different failures only of a document that cannot be read
(`Invocation.run_validate_mergeSelf`).
-/

namespace Fitout

/-- A configuration on top of itself is itself. -/
theorem Car.merge_self (car : Car) : car.merge car = car := by
  obtain ⟨id, brand, engine, camera, smartphone, adas⟩ := car
  cases camera <;> cases smartphone <;> cases adas <;> rfl

/-! ### Reading a file -/

/-- Whatever keeps a file from being read, it is not its document. -/
theorem Car.isDocument_of_not_holds {t : Tree} {p : Path} (h : t.holds p = false) :
    ∃ e, loaded t p = .error e ∧ e.isDocument = false := by
  rw [loaded_eq]
  rcases hformat : Format.ofPath p with e | format
  · refine ⟨e, rfl, ?_⟩
    unfold Format.ofPath at hformat
    split at hformat <;> cases hformat
    rfl
  · rcases hread : t.read p with e | content
    · exact ⟨.file e, rfl, rfl⟩
    · rw [Tree.holds_of_read hread] at h
      cases h

/-- What can be loaded is what the library loads, but a path that denotes nothing is the mistake of
the caller; this one cannot be loaded in either way, and not for its document. -/
theorem Command.load_cases (t : Tree) (p : Path) :
    load t p = (Car.loaded t p).mapError .operation ∨
      load t p = .error (.arguments (.noFile p)) ∧
        ∃ e, Car.loaded t p = .error e ∧ e.isDocument = false := by
  rw [load_eq]
  rcases hholds : t.holds p with - | -
  · exact .inr ⟨rfl, Car.isDocument_of_not_holds hholds⟩
  · exact .inl rfl

/-! ### The verdict -/

/-- A merge of a file with itself makes the configuration of the file. -/
theorem Command.effect_mergeSelf (wording : Wording) (quiet : Bool) (t : Tree) (env : Environment)
    (p : Path) (format : Format) :
    effect wording quiet t env (.merge p [p] false (.standard format)) =
      (load t p).map fun car ↦ (car.render format, t) := by
  rw [effect]
  rcases hload : load t p with e | car
  · rfl
  · have hlayers : [p].mapM (load t) = .ok [car] := by
      rw [List.mapM_cons, hload]
      rfl
    rw [hlayers]
    show emitted t (car.merge car) (.standard format) = _
    rw [Car.merge_self]
    rfl

/-- What a verdict says of a file that the library cannot load, beside any other command. -/
theorem Command.exitCode_of_load_eq_error {t : Tree} {p : Path} {e : Failure}
    (h : load t p = .error e) : ∃ e', Car.loaded t p = .error e' ∧
      if e'.isDocument then e.judged.exitCode = 1 ∧ e.exitCode = 7
      else e.judged.exitCode = e.exitCode := by
  obtain hload | ⟨hload, e', hcar, hdocument⟩ := load_cases t p
  · obtain ⟨e', hcar, rfl⟩ := Except.mapError_eq_error_iff.1 (hload.symm.trans h)
    refine ⟨e', hcar, ?_⟩
    rcases e' with _ | _ | _ | _ | _
    case document => exact ⟨rfl, rfl⟩
    all_goals rfl
  · obtain rfl : e = .arguments (.noFile p) := Except.error.inj (h.symm.trans hload)
    refine ⟨e', hcar, ?_⟩
    rw [hdocument]
    rfl

/-- A run that changes no file and prints a text, or fails. -/
def Outcome.Answers (o : Outcome) (t : Tree) : Except Failure String → Prop
  | .ok text => o.Leaves text t
  | .error e => o.FailsWith t e

namespace Invocation

/-- If all that comes of a command is a text, it is the answer of the run. -/
theorem run_of_print {inv : Invocation} {wording : Wording} {env : Environment} {t : Tree}
    {answer : Except Failure String}
    (h : inv.effect wording t env = answer.map fun text ↦ (text, t)) :
    (inv.run wording env t).Answers t answer := by
  rcases answer with e | text
  · exact run_of_error h
  · exact run_of_ok h

/-- A validation prints its approval of a file that holds a configuration. -/
theorem run_validate (verbose quiet : Bool) (file : Path) (wording : Wording) (env : Environment)
    (t : Tree) :
    (Invocation.run ⟨verbose, quiet, .validate file⟩ wording env t).Answers t
      (((Command.load t file).mapError Failure.judged).map fun _ ↦ Command.approval quiet) := by
  refine run_of_print ?_
  show ((Command.load t file).mapError Failure.judged).map _ = _
  rcases Command.load t file with e | car <;> rfl

/-- A merge of a file with itself prints the configuration of the file. -/
theorem run_mergeSelf (verbose quiet : Bool) (p : Path) (format : Format) (wording : Wording)
    (env : Environment) (t : Tree) :
    (Invocation.run ⟨verbose, quiet, .merge p [p] false (.standard format)⟩ wording env t).Answers t
      ((Command.load t p).map (Car.render format)) := by
  refine run_of_print ((Command.effect_mergeSelf wording quiet t env p format).trans ?_)
  rcases Command.load t p with e | car <;> rfl

/-- **A validation agrees with a merge of the file with itself.** If the file holds a configuration,
both succeed, and the merge prints this configuration. Else both fail, with the same exit code
unless the document cannot be read. -/
theorem run_validate_mergeSelf (verbose verbose' quiet quiet' : Bool) (format : Format)
    (wording : Wording) (env env' : Environment) (t : Tree) (p : Path) :
    let checked := Invocation.run ⟨verbose, quiet, .validate p⟩ wording env t
    let merged :=
      Invocation.run ⟨verbose', quiet', .merge p [p] false (.standard format)⟩ wording env' t
    (checked.exitCode = 0 ↔ merged.exitCode = 0) ∧
      match Car.loaded t p with
      | .ok car => merged.exitCode = 0 ∧ merged.stdout = car.render format
      | .error (.document _ _) => checked.exitCode = 1 ∧ merged.exitCode = 7
      | .error _ => merged.exitCode ≠ 0 ∧ checked.exitCode = merged.exitCode := by
  intro checked merged
  have hmerged := run_mergeSelf verbose' quiet' p format wording env' t
  have hchecked := run_validate verbose quiet p wording env t
  rcases hload : Command.load t p with e | car
  · -- Both fail, for the same reason; what is left is to compare the exit codes.
    rw [hload] at hmerged hchecked
    replace hmerged : merged.FailsWith t e := hmerged
    replace hchecked : checked.FailsWith t e.judged := hchecked
    obtain ⟨e', hcar, hcodes⟩ := Command.exitCode_of_load_eq_error hload
    rw [← hchecked.exitCode, ← hmerged.exitCode] at hcodes
    rw [hcar]
    refine ⟨by simp [hmerged.nonzero, hchecked.nonzero], ?_⟩
    rcases e' with _ | _ | _ | _ | _
    case document => exact hcodes
    all_goals exact ⟨hmerged.nonzero, hcodes⟩
  · rw [hload] at hmerged hchecked
    replace hmerged : merged.Leaves (car.render format) t := hmerged
    replace hchecked : checked.Leaves (Command.approval quiet) t := hchecked
    rw [Command.load_eq_ok_iff_loaded.1 hload]
    exact ⟨by simp [hmerged.exitCode, hchecked.exitCode], hmerged.exitCode, hmerged.stdout⟩

end Invocation

end Fitout
