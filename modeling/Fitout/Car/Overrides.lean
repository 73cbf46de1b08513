import Fitout.Car.Draft
import Fitout.Environment

/-!
# Overrides from the environment

Every field has a variable that overrides it. A blank value makes an optional field absent; any
other value is read as if the field were set by name. The overrides of an environment are tried on
a copy first, which takes the place of the car when all of them were applied.
-/

namespace Fitout

/-- One variable that is set, with the field it overrides. -/
structure Override where
  /-- The field. -/
  field : Field
  /-- The value of its variable. -/
  value : String
  deriving DecidableEq, Repr

/-- The overrides that an environment asks for, in the order of the fields. -/
def Environment.overrides (env : Environment) : List Override :=
  Field.all.filterMap fun f ↦ (env.get? f.variableName).map (⟨f, ·⟩)

namespace Override

/-- Whether an override asks for absence. -/
def isBlank (o : Override) : Bool :=
  (Text.trimChars o.value.toList).isEmpty

/-- A refusal in the name of the variable of an override. -/
def blame (o : Override) (r : Rejection) : Rejection :=
  { r with field := o.field.variableName }

/-- Applies one override. A refusal names the variable instead of the field. -/
def apply (car : Car) (o : Override) : Except Rejection Car :=
  (if o.isBlank then car.unset o.field else car.set o.field o.value).mapError o.blame

/-- The error of an override: a refusal is put in the name of the variable. -/
def error (o : Override) : Error → Error
  | .rejected r => .rejected (o.blame r)
  | e => e

/-- Applies one override in place. -/
def perform (o : Override) : Draft Unit :=
  ExceptT.adapt o.error
    (if o.isBlank then Draft.unsetNamed o.field.name
      else Draft.setNamed o.field.name o.value)

end Override

/-- The car after overrides that are applied one after the other, up to the first that is
refused. -/
def Car.override (car : Car) (overrides : List Override) : Except Rejection Car :=
  overrides.foldlM Override.apply car

namespace Draft

/-- Applies the overrides of some fields in place, one after the other, and counts them. -/
def overrideEach (env : Environment) : List Field → Draft Nat
  | [] => return 0
  | f :: fs => do
    match env.get? f.variableName with
    | none => overrideEach env fs
    | some value =>
      Override.perform ⟨f, value⟩
      return (← overrideEach env fs) + 1

/-- Applies the overrides of an environment to a copy, which then takes the place of the car, and
counts them. -/
def override (env : Environment) : Draft Nat := do
  let (result, copy) := Program.answer (overrideEach env Field.all) (← get)
  let n ← ofExcept result
  modify fun _ ↦ copy
  return n

end Draft

end Fitout
