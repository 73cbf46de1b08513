import Fitout.Car

/-!
# Names of members

A member reads back from its own name. The four enumerations of a car have this in common, so what
follows from it is stated once, for any of them.
-/

namespace Fitout

/-- An enumeration whose members read back from their names. -/
class Member.Readable (α : Type) [Member α] : Prop where
  /-- A member reads back from its name. -/
  parse_name : ∀ m : α, Member.parse (Member.name m) = .ok m

namespace Member

export Readable (parse_name)

attribute [simp] parse_name

instance : Readable Engine where
  parse_name m := by cases m <;> rfl

instance : Readable Camera where
  parse_name m := by cases m <;> rfl

instance : Readable Smartphone where
  parse_name m := by cases m <;> rfl

instance : Readable Adas where
  parse_name m := by cases m <;> rfl

end Member

end Fitout
