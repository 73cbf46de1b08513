import Fitout.Car
import Fitout.Profile

/-!
# What is written into documents

A record is written as its present fields in declaration order, each a number or a text. Absent
fields are left out.
-/

namespace Fitout

/-- A value as documents hold it. -/
inductive Scalar
  | number (n : UInt32)
  | text (s : String)
  deriving DecidableEq, Repr

/-- A member as documents hold it. -/
def Member.scalar {α : Type} [Member α] (m : α) : Scalar :=
  .text (name m)

/-- The present fields of a car with their values. -/
def Car.entries (car : Car) : List (String × Scalar) :=
  [("id", .number car.id.value), ("brand", .text car.brand.text),
      ("engine", Member.scalar car.engine)] ++
    (car.camera.map fun m ↦ ("camera", Member.scalar m)).toList ++
    (car.smartphone.map fun m ↦ ("smartphone", Member.scalar m)).toList ++
    (car.adas.map fun m ↦ ("adas", Member.scalar m)).toList

/-- The present fields of a profile with their values. -/
def Profile.entries (p : Profile) : List (String × Scalar) :=
  (p.id.map fun n ↦ ("id", Scalar.number n)).toList ++
    (p.name.map fun s ↦ ("name", Scalar.text s)).toList

end Fitout
