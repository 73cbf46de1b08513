import Fitout.Proofs.Command.World
import Fitout.Proofs.Files.Write

/-!
# What goes into a run and what comes out

A command reads configurations from the files of its arguments (`Command.load`) and ends by
emitting one: it is printed, or written into a file in the format of its extension, which then keeps
it (`Target.Receives`). What an emission can fail with is told by the target and the tree, without
the configuration (`Command.ends_emitted`), since a write fails for its path and not for what is
written.

Reading looks, and only the emission does something (`Command.looks_input`, `Command.does_emit`).
-/

namespace Fitout

open Program (answer)

variable {t after : Tree} {env : Environment}

/-! ### Inputs -/

/-- What comes of loading the car in the file of a path. -/
def Car.loaded (t : Tree) (p : Path) : Except Error Car :=
  (answer (Car.load p) { tree := t : World }).1

/-- What comes of reading the configuration in the file of an argument. -/
def Command.load (t : Tree) (p : Path) : Except Failure Car :=
  (answer (Command.input p) { tree := t : World }).1

/-- A result that a program has wherever it sees a tree is the one that it has in a world of the
tree alone. -/
theorem Looks.eq_answer {ε α : Type} {p : Program World ε α} {r : Except ε α}
    (h : ∀ env, Looks t env p r) : r = (answer p { tree := t : World }).1 := by
  obtain ⟨said, hanswer⟩ := h {} { tree := t } ⟨rfl, rfl⟩
  rw [hanswer]

namespace Car

theorem looks_load_steps (t : Tree) (env : Environment) (p : Path) :
    Looks t env (Car.load p) (do
      let format ← Format.ofPath p
      let content ← (t.read p).mapError .file
      let text ← (FileError.decode content).mapError .file
      Car.ofDocument format text) :=
  (looks_ofExcept _).bind fun _ ↦ (looks_read p).next <| (looks_ofExcept _).bind fun _ ↦
    (looks_ofExcept _).bind fun _ ↦ (looks_records _).next (looks_ofExcept _)

theorem loaded_eq (t : Tree) (p : Path) :
    loaded t p = (do
      let format ← Format.ofPath p
      let content ← (t.read p).mapError .file
      let text ← (FileError.decode content).mapError .file
      Car.ofDocument format text) :=
  (Looks.eq_answer fun env ↦ looks_load_steps t env p).symm

theorem looks_load (t : Tree) (env : Environment) (p : Path) :
    Looks t env (Car.load p) (loaded t p) := by
  rw [loaded_eq]
  exact looks_load_steps t env p

/-- A car is loaded if the file has a format, can be read, holds text, and the text is a document of
the car. -/
theorem loaded_eq_ok_iff {p : Path} {car : Car} :
    loaded t p = .ok car ↔ ∃ format content text, Format.ofPath p = .ok format ∧
      t.read p = .ok content ∧ FileError.decode content = .ok text ∧
        Car.ofDocument format text = .ok car := by
  simp only [loaded_eq, Except.bind_eq_ok_iff, Except.mapError_eq_ok_iff]
  constructor
  · rintro ⟨format, hformat, content, hread, text, htext, hcar⟩
    exact ⟨format, content, text, hformat, hread, htext, hcar⟩
  · rintro ⟨format, content, text, hformat, hread, htext, hcar⟩
    exact ⟨format, hformat, content, hread, text, htext, hcar⟩

end Car

namespace Command

theorem looks_input_steps (t : Tree) (env : Environment) (p : Path) :
    Looks t env (input p) (if t.holds p then (Car.loaded t p).mapError Failure.operation
      else .error (.arguments (.noFile p))) := by
  refine (looks_holds p).next ?_
  split
  · exact (Car.looks_load t env p).adapt Failure.operation
  · exact looks_throw _

theorem load_eq (t : Tree) (p : Path) :
    load t p = if t.holds p then (Car.loaded t p).mapError .operation
      else .error (.arguments (.noFile p)) :=
  (Looks.eq_answer fun env ↦ looks_input_steps t env p).symm

theorem looks_input (t : Tree) (env : Environment) (p : Path) :
    Looks t env (input p) (load t p) := by
  rw [load_eq]
  exact looks_input_steps t env p

/-- What can be loaded is there. -/
theorem load_eq_ok_iff_loaded {p : Path} {car : Car} :
    load t p = .ok car ↔ Car.loaded t p = .ok car := by
  rw [load_eq]
  by_cases hholds : t.holds p = true
  · rw [if_pos hholds, Except.mapError_eq_ok_iff]
  · rw [if_neg hholds]
    constructor
    · rintro ⟨⟩
    · intro h
      obtain ⟨-, content, -, -, hread, -⟩ := Car.loaded_eq_ok_iff.1 h
      exact absurd (Tree.holds_of_read hread) hholds

end Command

/-! ### Emissions -/

namespace Target

/-- Why nothing can be emitted, if so: the extension of the file comes before the file. -/
def failures (t : Tree) : Target → List Failure
  | .standard _ => []
  | .file path =>
    (Fitout.failures (Format.ofPath path)).map .operation ++
      (Fitout.failures (t.write path .empty)).map fun e ↦ .operation (.file e)

/-- A configuration is emitted: printed in the format asked for, or written into the file in the
format of its extension, so that the file keeps it. -/
def Receives (t : Tree) (car : Car) (text : String) (after : Tree) : Target → Prop
  | .standard format => text = car.render format ∧ after = t
  | .file path => text = "" ∧ ∃ format, Format.ofPath path = .ok format ∧
      t.write path (car.render format).toUTF8 = .ok after ∧
        after.Keeps path (car.render format).toUTF8

end Target

/-- What comes of saving a car: nothing is printed, and the file is written. -/
def Car.saved (t : Tree) (car : Car) (path : Path) : Except Error (String × Tree) := do
  let format ← Format.ofPath path
  ((t.write path (car.render format).toUTF8).map fun after ↦ ("", after)).mapError .file

theorem Car.does_save (t : Tree) (env : Environment) (car : Car) (path : Path) :
    Does t env (car.save path) (car.saved t path) := by
  refine .bind (looks_ofExcept _) fun format ↦ ?_
  rw [← bind_assoc]
  exact (does_write path (car.render format).toUTF8 Error.file).andThen fun _ _ ↦ looks_record _

namespace Command

/-- What comes of emitting a configuration: what is printed, and the files afterwards. -/
def emitted (t : Tree) (car : Car) : Target → Except Failure (String × Tree)
  | .standard format => .ok (car.render format, t)
  | .file path => (car.saved t path).mapError .operation

theorem does_emit (t : Tree) (env : Environment) (quiet : Bool) (car : Car) (target : Target) :
    Does t env (emit quiet car target) (emitted t car target) := by
  cases target with
  | standard format => exact does_print _
  | file path =>
    refine ((Car.does_save t env car path).adapt Failure.operation).andThen fun t env ↦ ?_
    rcases quiet with _ | _
    · exact looks_tell _
    · exact looks_pure ()

theorem ends_emitted (t : Tree) (car : Car) (target : Target) :
    Ends (fun out ↦ target.Receives t car out.1 out.2) (emitted t car target)
      (target.failures t) := by
  cases target with
  | standard format => exact .value ⟨rfl, rfl⟩
  | file path =>
    have hsaved : Ends (fun out ↦ (Target.file path).Receives t car out.1 out.2)
        (car.saved t path)
        (failures (Format.ofPath path) ++ (failures (t.write path .empty)).map .file) := by
      refine (Ends.self _).bind fun format hformat ↦ ?_
      rw [Tree.failures_write t path .empty (car.render format).toUTF8]
      exact ((Ends.self _).map fun after hwrite ↦
        ⟨rfl, format, hformat, hwrite, Tree.keeps_of_write hwrite⟩).mapError _
    have hemitted := hsaved.mapError Failure.operation
    rw [List.map_append, List.map_map] at hemitted
    exact hemitted

/-- A configuration is emitted if the target receives it. -/
theorem emitted_eq_ok_iff {car : Car} {target : Target} {text : String} :
    emitted t car target = .ok (text, after) ↔ target.Receives t car text after := by
  cases target with
  | standard format =>
    show Except.ok (car.render format, t) = .ok (text, after) ↔ _
    rw [Except.ok.injEq, Prod.mk.injEq, eq_comm, @eq_comm _ t]
    rfl
  | file path =>
    show (car.saved t path).mapError Failure.operation = _ ↔ _
    simp only [Car.saved, Except.mapError_eq_ok_iff, Except.bind_eq_ok_iff, Except.map_eq_ok_iff,
      Prod.mk.injEq, Target.Receives]
    constructor
    · rintro ⟨format, hformat, _, hwrite, rfl, rfl⟩
      exact ⟨rfl, format, hformat, hwrite, Tree.keeps_of_write hwrite⟩
    · rintro ⟨rfl, format, hformat, hwrite, -⟩
      exact ⟨format, hformat, after, hwrite, rfl, rfl⟩

end Command

end Fitout
