import Fitout.Car
import Fitout.Program

/-!
# Drafts

Changes of a car in place. A change may take several steps, and may fail; the steps that it took
before it failed stay taken.
-/

namespace Fitout

/-- A change of a car in place. -/
abbrev Draft (α : Type) :=
  Program Car Error α

namespace Draft

/-- A value that may be refused. -/
def accept {α : Type} (r : Except Rejection α) : Draft α :=
  ofExcept (r.mapError .rejected)

/-- Overwrites a field with the value that a text stands for. -/
def overwrite (value : String) : Field → Draft Unit
  | .id => do
    let v ← accept (CarId.parse value)
    modify fun car ↦ { car with id := v }
  | .brand => do
    let v ← accept (Brand.parse value)
    modify fun car ↦ { car with brand := v }
  | .engine => do
    let v ← accept (Member.parse value)
    modify fun car ↦ { car with engine := v }
  | .camera => do
    let v ← accept (Member.parse value)
    modify fun car ↦ { car with camera := some v }
  | .smartphone => do
    let v ← accept (Member.parse value)
    modify fun car ↦ { car with smartphone := some v }
  | .adas => do
    let v ← accept (Member.parse value)
    modify fun car ↦ { car with adas := some v }

/-- Makes an optional field absent. -/
def clear (field : Field) : Draft Unit :=
  match field with
  | .id | .brand | .engine => throw (.rejected ⟨field.name, .mandatory⟩)
  | .camera => modify fun car ↦ { car with camera := none }
  | .smartphone => modify fun car ↦ { car with smartphone := none }
  | .adas => modify fun car ↦ { car with adas := none }

/-- Overwrites the field of a name with the value that a text stands for. -/
def setNamed (name value : String) : Draft Unit := do
  overwrite value (← ofExcept (Car.fieldNamed name))

/-- Makes the optional field of a name absent. -/
def unsetNamed (name : String) : Draft Unit := do
  clear (← ofExcept (Car.fieldNamed name))

end Draft

end Fitout
