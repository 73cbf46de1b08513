import Fitout.Car.Overrides
import Fitout.Steps

/-!
# Edits

The ways in which a configuration is changed in place, as values. A run of edits goes on after
those that fail.
-/

namespace Fitout

/-- One change to a configuration. -/
inductive Edit
  /-- Overwrites the field of a name. -/
  | setNamed (name value : String)
  /-- Makes the field of a name absent. -/
  | unsetNamed (name : String)
  /-- Replaces the identifier by a number. -/
  | renumber (id : UInt32)
  /-- Overwrites a field. -/
  | set (field : Field) (value : String)
  /-- Makes a field absent. -/
  | unset (field : Field)
  /-- Puts another configuration on top. -/
  | merge (update : Car)
  /-- Puts the overrides of an environment on top. -/
  | override (env : Environment)

/-- Carries out an edit in place. -/
def Edit.perform : Edit → Draft Unit
  | setNamed name value => Draft.setNamed name value
  | unsetNamed name => Draft.unsetNamed name
  | renumber id => do
    let v ← Draft.accept (CarId.ofWord id)
    modify fun car ↦ { car with id := v }
  | set field value => Draft.overwrite value field
  | unset field => Draft.clear field
  | merge update => modify (·.merge update)
  | override env => discard (Draft.override env)

/-- The configuration after a run of edits, whether they fail or not. -/
def Car.edit (car : Car) (edits : List Edit) : Car :=
  (Steps.run (fun car e ↦ Program.answer e.perform car) car edits).2

end Fitout
