import Fitout.Field
import Fitout.Rejection
import Fitout.Text.Decimal

/-!
# Car identifiers

A 32-bit number of at least one.
-/

namespace Fitout

/-- The identifier of a car. -/
structure CarId where
  /-- The number. -/
  value : UInt32
  /-- Identifiers start at one. -/
  positive : 1 ≤ value
  deriving DecidableEq, Repr

namespace CarId

/-- The least identifier. -/
def min : UInt32 :=
  1

/-- A number as an identifier. -/
def ofWord (value : UInt32) : Except Rejection CarId :=
  if h : 1 ≤ value then .ok ⟨value, h⟩
  else .error ⟨Field.id.name, .belowMinimum value⟩

/-- Reads an identifier: decimal digits with an optional plus sign, blanks around. -/
def parse (s : String) : Except Rejection CarId :=
  match Decimal.word? (Text.trimChars s.toList) with
  | some value => ofWord value
  | none => .error ⟨Field.id.name, .notPositive s⟩

/-- The decimal form of an identifier. -/
protected def toString (id : CarId) : String :=
  Decimal.write id.value.toNat

instance : ToString CarId :=
  ⟨CarId.toString⟩

@[simp]
theorem ofWord_value (id : CarId) : ofWord id.value = .ok id := by
  simp [ofWord, id.positive]

/-- Identifiers are ordered as numbers. -/
instance : Ord CarId :=
  ⟨fun a b ↦ compare a.value b.value⟩

end CarId

end Fitout
