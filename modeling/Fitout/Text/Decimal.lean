/-!
# Decimal numerals

Reading and writing numbers in decimal digits. A numeral is read as a number of any size first;
the 32-bit reading then refuses what does not fit, so that no long numeral wraps around.

Main statement: `natural?_write`, a written number reads back.
-/

namespace Fitout.Decimal

/-- The number that a text of decimal digits stands for; there is at least one digit. -/
def natural? (cs : List Char) : Option Nat :=
  if !cs.isEmpty && cs.all Char.isDigit then some (Nat.ofDigitChars 10 cs 0) else none

/-- A natural number with an optional plus sign. -/
def unsigned? : List Char → Option Nat
  | '+' :: cs => natural? cs
  | cs => natural? cs

/-- A number with an optional sign. -/
def signed? : List Char → Option Int
  | '-' :: cs => (natural? cs).map fun n ↦ -(n : Int)
  | cs => (unsigned? cs).map Int.ofNat

/-- A natural number as a 32-bit word, if it fits. -/
def fitWord (n : Nat) : Option UInt32 :=
  if n < UInt32.size then some (UInt32.ofNat n) else none

/-- A 32-bit number with an optional plus sign. -/
def word? (cs : List Char) : Option UInt32 :=
  (unsigned? cs).bind fitWord

/-- The decimal digits of a number. -/
def write (n : Nat) : String :=
  String.ofList (Nat.toDigits 10 n)

@[simp]
theorem toList_write (n : Nat) : (write n).toList = Nat.toDigits 10 n := by
  simp [write]

theorem natural?_write (n : Nat) : natural? (write n).toList = some n := by
  have hd : (Nat.toDigits 10 n).all Char.isDigit = true := by
    rw [List.all_eq_true]
    exact fun c hc ↦ Nat.isDigit_of_mem_toDigits (by decide) (by decide) hc
  have hne : Nat.toDigits 10 n ≠ [] := Nat.toDigits_ne_nil
  simp [natural?, hd, hne]

@[simp]
theorem fitWord_toNat (w : UInt32) : fitWord w.toNat = some w := by
  simp [fitWord, UInt32.toNat_lt_size w]

end Fitout.Decimal
