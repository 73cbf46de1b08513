import Fitout.Proofs.Car.Overrides
import Fitout.Proofs.Command.InOut

/-!
# Outcomes of runs

What a command comes to can be told without a host: from a tree and an environment it makes a text
for standard output and the files afterwards, or it fails (`Command.effect`). In whatever world it
is carried out, this is what it does, and if it fails it has done nothing before, however many of
its steps were taken (`Invocation.does_execute`). So the outcome of a run is told by the effect of
its command, but for what the run says (`Invocation.run_of_ok`, `Invocation.run_of_error`).
-/

namespace Fitout

open Program (answer)

theorem Failure.exitCode_mem (e : Failure) : e.exitCode ∈ [1, 4, 5, 7] := by
  rcases e with (_ | _ | _ | _ | _) | _ | _ | _ <;> simp [exitCode, Error.exitCode]

theorem Failure.exitCode_ne_zero (e : Failure) : e.exitCode ≠ 0 := by
  intro h
  have hmem := e.exitCode_mem
  simp [h] at hmem

/-- A failure to read a file as a validation tells it. -/
def Failure.judged : Failure → Failure
  | .operation e =>
    if e.isDocument || e.isRejection then .verdict "Configuration validation failed"
    else .operation e
  | e => e

/-! ### Commands -/

namespace Command

/-- What a validation prints of a file that it finds good. -/
def approval (quiet : Bool) : String :=
  if quiet then "" else "Configuration is valid\n"

/-- The configuration with the overrides of an environment on top. -/
def overridden (env : Environment) (car : Car) : Except Failure Car :=
  ((car.override env.overrides).mapError .rejected).mapError .operation

/-- What comes of a command: what is printed, and the files afterwards. -/
def effect (wording : Wording) (quiet : Bool) (t : Tree) (env : Environment) :
    Command → Except Failure (String × Tree)
  | .create id brand engine camera smartphone adas target => do
    let base ← (Car.create id brand engine).mapError fun r ↦ .operation (.rejected r)
    emitted t { base with camera, smartphone, adas } target
  | .merge base updates useEnvironment target => do
    let first ← load t base
    let layers ← updates.mapM (load t)
    let merged := first.mergeAll layers
    let car ← if useEnvironment then overridden env merged else .ok merged
    emitted t car target
  | .set file texts target => do
    let assignments ← texts.mapM Assignment.parse
    let current ← load t file
    let car ← (current.assign assignments).mapError .operation
    emitted t car target
  | .validate file => ((load t file).mapError Failure.judged).map fun _ ↦ (approval quiet, t)
  | .completions shell => .ok (wording.script shell, t)

section

variable (t : Tree) (env : Environment) (wording : Wording) (verbose quiet : Bool)

theorem does_runCreate (id : UInt32) (brand : String) (engine : Engine) (camera : Option Camera)
    (smartphone : Option Smartphone) (adas : Option Adas) (target : Target) :
    Does t env (runCreate quiet id brand engine camera smartphone adas target)
      (effect wording quiet t env (.create id brand engine camera smartphone adas target)) :=
  .next (looks_records _) <| .bind (looks_ofExcept _) fun _ ↦ .next (looks_record _) <|
    does_emit t env quiet _ target

theorem looks_override (car : Car) : Looks t env (override car) (overridden env car) := by
  refine looks_environment.next ((looks_records _).next ?_)
  have hanswer := Draft.answer_override env car
  rw [overridden]
  rcases hoverride : car.override env.overrides with r | after
  all_goals
    rw [hoverride] at hanswer
    simp only [hanswer]
  · exact (looks_ofExcept (.error _)).stop
  · exact (looks_ofExcept (.ok _)).next ((looks_record _).next (looks_pure _))

theorem does_runMerge (base : Path) (updates : List Path) (useEnvironment : Bool)
    (target : Target) :
    Does t env (runMerge quiet base updates useEnvironment target)
      (effect wording quiet t env (.merge base updates useEnvironment target)) := by
  refine .bind (looks_input t env base) fun first ↦
    .bind (.mapM (looks_input t env) updates) fun layers ↦ .next (looks_records _) ?_
  rcases useEnvironment with _ | _
  · exact .bind (looks_pure _) fun car ↦ does_emit t env quiet car target
  · exact .bind (looks_override t env _) fun car ↦ does_emit t env quiet car target

theorem does_runSet (file : Path) (texts : List String) (target : Target) :
    Does t env (runSet verbose quiet file texts target)
      (effect wording quiet t env (.set file texts target)) := by
  refine .bind (looks_ofExcept _) fun assignments ↦ .bind (looks_input t env file) fun current ↦
    .next (looks_records _) <| .bind (looks_ofExcept _) fun car ↦ ?_
  rcases verbose with _ | _
  · exact does_emit t env quiet car target
  · exact .next (looks_tell _) (does_emit t env quiet car target)

theorem does_runValidate (file : Path) :
    Does t env (runValidate quiet file) (effect wording quiet t env (.validate file)) := by
  refine .next (looks_holds file) ?_
  rw [effect, load_eq]
  rcases t.holds file with - | -
  · exact .of_looks (looks_throw _).stop
  · refine .next (Car.looks_load t env file).lift ?_
    rcases Car.loaded t file with e | car
    · refine .of_looks ?_
      show Looks t env (if e.isDocument || e.isRejection then _ else _)
        (.error (if e.isDocument || e.isRejection then _ else _))
      split
      · exact (looks_tell _).next (looks_throw _)
      · exact looks_throw _
    · refine .next (looks_record _) ?_
      rcases quiet with _ | _
      · exact does_print _
      · exact does_pure

theorem does_runCompletions (shell : Shell) :
    Does t env (runCompletions wording quiet shell)
      (effect wording quiet t env (.completions shell)) := by
  rcases quiet with _ | _
  · exact .next (looks_tellAll _) (does_print _)
  · exact does_print _

end

end Command

/-! ### Runs -/

/-- The outcome of a run whose command has answered. -/
def Outcome.ofAnswer : Except Failure Unit × World → Outcome
  | (.ok (), w) => w.outcome 0
  | (.error e, w) => (w.say ("Error: " ++ e.message ++ "\n")).outcome e.exitCode

/-- A failed run: the failure gives the exit code and is told at the end, nothing is printed and
the files are as before. -/
structure Outcome.FailsWith (o : Outcome) (before : Tree) (e : Failure) : Prop where
  exitCode : o.exitCode = e.exitCode
  nonzero : o.exitCode ≠ 0
  stdout : o.stdout = ""
  stderr : ∃ said, o.stderr = said ++ ("Error: " ++ e.message ++ "\n")
  tree : o.tree = before

/-- A run that did its work and leaves a text and some files. -/
structure Outcome.Leaves (o : Outcome) (text : String) (after : Tree) : Prop where
  exitCode : o.exitCode = 0
  stdout : o.stdout = text
  tree : o.tree = after

namespace Invocation

/-- What comes of the command of an invocation. -/
def effect (inv : Invocation) (wording : Wording) (t : Tree) (env : Environment) :
    Except Failure (String × Tree) :=
  inv.command.effect wording inv.quiet t env

/-- **A command does what comes of it, and nothing before it fails.** -/
theorem does_execute (inv : Invocation) (wording : Wording) (t : Tree) (env : Environment) :
    Does t env (inv.execute wording) (inv.effect wording t env) := by
  obtain ⟨verbose, quiet, command⟩ := inv
  cases command with
  | create id brand engine camera smartphone adas target =>
    exact Command.does_runCreate t env wording quiet id brand engine camera smartphone adas target
  | merge base updates useEnvironment target =>
    exact Command.does_runMerge t env wording quiet base updates useEnvironment target
  | set file texts target =>
    exact Command.does_runSet t env wording verbose quiet file texts target
  | validate file => exact Command.does_runValidate t env wording quiet file
  | completions shell => exact Command.does_runCompletions t env wording quiet shell

/-- The world in which the command of a run is carried out: logging has been started. -/
def started (inv : Invocation) (t : Tree) (env : Environment) : World :=
  let v := inv.verbosity env
  { tree := t, environment := env, log := ({} : Log).start v : World }.record
    ⟨.debug, "log level: " ++ v.name⟩

theorem exists_started_eq_say (inv : Invocation) (t : Tree) (env : Environment) :
    ∃ said, inv.started t env =
      ({ tree := t, environment := env, log := ({} : Log).start (inv.verbosity env) } : World).say
        said := by
  rw [started]
  exact World.exists_record_eq_say _ _

theorem started_shows (inv : Invocation) (t : Tree) (env : Environment) :
    (inv.started t env).Shows t env := by
  obtain ⟨said, hsaid⟩ := inv.exists_started_eq_say t env
  rw [hsaid]
  exact ⟨rfl, rfl⟩

theorem stdout_started (inv : Invocation) (t : Tree) (env : Environment) :
    (inv.started t env).stdout = "" := by
  obtain ⟨said, hsaid⟩ := inv.exists_started_eq_say t env
  rw [hsaid]
  rfl

/-- A run ends with the answer of its command. A failure is told then, and gives the exit code. -/
theorem run_eq (inv : Invocation) (wording : Wording) (env : Environment) (t : Tree) :
    inv.run wording env t = .ofAnswer (answer (inv.execute wording) (inv.started t env)) := by
  have hlook (w : World) : StateT.run (Host.environment : StateM World Environment) w =
      pure (w.environment, w) := rfl
  have hstart (v : Verbosity) (w : World) : StateT.run (Host.startLog v : StateM World Unit) w =
      pure ((), { w with log := w.log.start v }) := rfl
  have hrecord (r : Record) (w : World) : StateT.run (Host.record r : StateM World Unit) w =
      pure ((), w.record r) := rfl
  have hexecute (w : World) :
      StateT.run (inv.execute wording : Program World Failure Unit).run w =
        pure (answer (inv.execute wording) w) := rfl
  simp only [run, main, StateT.run_bind, hlook, hstart, hrecord, hexecute, pure_bind]
  rw [started]
  rcases answer (inv.execute wording) _ with ⟨_ | _, w⟩ <;> rfl

variable {inv : Invocation} {wording : Wording} {t : Tree} {env : Environment}

theorem run_of_error {e : Failure} (h : inv.effect wording t env = .error e) :
    (inv.run wording env t).FailsWith t e := by
  obtain ⟨said, hanswer⟩ := inv.does_execute wording t env _ (inv.started_shows t env)
  rw [h] at hanswer
  rw [run_eq, hanswer]
  exact
    { exitCode := rfl
      nonzero := e.exitCode_ne_zero
      stdout := inv.stdout_started t env
      stderr := ⟨_, rfl⟩
      tree := (inv.started_shows t env).tree }

theorem run_of_ok {text : String} {after : Tree}
    (h : inv.effect wording t env = .ok (text, after)) :
    (inv.run wording env t).Leaves text after := by
  obtain ⟨said, hanswer⟩ := inv.does_execute wording t env _ (inv.started_shows t env)
  rw [h] at hanswer
  rw [run_eq, hanswer]
  exact
    { exitCode := rfl
      stdout := by
        show (inv.started t env).stdout ++ text = text
        rw [inv.stdout_started, String.empty_append]
      tree := rfl }

/-- A run succeeds if something comes of its command. -/
theorem run_eq_ok_iff {after : Tree} :
    (inv.run wording env t).exitCode = 0 ∧ (inv.run wording env t).tree = after ↔
      ∃ text, inv.effect wording t env = .ok (text, after) := by
  rcases h : inv.effect wording t env with e | ⟨text, tree⟩
  · simp [(run_of_error h).nonzero]
  · simp [(run_of_ok h).exitCode, (run_of_ok h).tree]

/-- If what can come of a command is told by its failures, so is its run. -/
theorem run_of_ends (inv : Invocation) {P : String → Tree → Prop} {es : List Failure} :
    Ends (fun out ↦ P out.1 out.2) (inv.effect wording t env) es →
      match es with
      | e :: _ => (inv.run wording env t).FailsWith t e
      | [] => ∃ text after, P text after ∧ (inv.run wording env t).Leaves text after := by
  generalize heffect : inv.effect wording t env = r
  rintro (hout | ⟨e, later⟩)
  · exact ⟨_, _, hout, run_of_ok heffect⟩
  · exact run_of_error heffect

end Invocation

end Fitout
