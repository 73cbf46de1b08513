import Fitout.Field
import Fitout.Rejection

/-!
# Brands

The name of a car's maker: a text without blanks around it, not empty, at most 64 characters long
and free of control characters.
-/

namespace Fitout

/-- The most characters that a brand may have. -/
def Brand.maxLength : Nat :=
  64

/-- The brand of a car. -/
structure Brand where
  /-- The name as written in documents. -/
  text : String
  /-- No blanks stand around a brand. -/
  trimmed : Text.trim text = text
  /-- A brand has a name. -/
  nonempty : text.toList ≠ []
  /-- A brand fits on one line. -/
  printable : ∀ c ∈ text.toList, Text.isControl c = false
  /-- A brand is short. -/
  short : text.toList.length ≤ Brand.maxLength
  deriving DecidableEq, Repr

namespace Brand

/-- Reads a brand. Blanks around it are dropped; of several faults the first in the order empty,
control character, too long is named. -/
def parse (s : String) : Except Rejection Brand :=
  let t := Text.trim s
  if hn : t.toList = [] then .error ⟨Field.brand.name, .blankBrand⟩
  else if hc : t.toList.any Text.isControl = true then
    .error ⟨Field.brand.name, .controlInBrand⟩
  else if hl : t.toList.length ≤ maxLength then
    .ok
      { text := t
        trimmed := Text.trim_trim s
        nonempty := hn
        printable := fun c hm ↦ by
          simpa using fun h ↦ hc (List.any_eq_true.2 ⟨c, hm, h⟩)
        short := hl }
  else .error ⟨Field.brand.name, .longBrand⟩

instance : ToString Brand :=
  ⟨Brand.text⟩

/-- A brand reads back from its own text. -/
@[simp]
theorem parse_text (b : Brand) : parse b.text = .ok b := by
  have hc : b.text.toList.any Text.isControl = false := by
    simpa using b.printable
  simp [parse, b.trimmed, b.nonempty, hc, b.short]

/-- Brands are ordered by code points, which is the order of their UTF-8 bytes. -/
instance : Ord Brand :=
  ⟨fun a b ↦ compare a.text b.text⟩

end Brand

end Fitout
