import Fitout.Document.Outline
import Fitout.Text.Decimal

/-!
# Numbers in JSON

A number is an integer part without leading zeros, then perhaps a fraction and an exponent. Only
an integer of at most 64 bits counts as an integer; every other number is a binary fraction of
double precision, and one too large for that is malformed.

Whether a number is too large is decided in exact arithmetic. The digits are taken up while they
fit 64 bits, the rest counts towards the exponent; then both factors and their product are rounded
to 53 significant bits, as double precision does.
-/

namespace Fitout.Json

/-- The parts of a number as written. -/
structure Numeral where
  /-- Whether a minus sign stands first. -/
  negative : Bool
  /-- The digits of the integer part. -/
  whole : List Char
  /-- The digits of the fraction, if there is one. -/
  fraction : Option (List Char)
  /-- The sign and the digits of the exponent, if there is one. -/
  exponent : Option (Bool × List Char)

/-- The run of digits at the start of a text, and the rest; there is at least one digit. -/
def readDigits (cs : List Char) : Option (List Char × List Char) :=
  let ds := cs.takeWhile Char.isDigit
  if ds.isEmpty then none else some (ds, cs.dropWhile Char.isDigit)

/-- Reads a fraction, if one starts here. -/
def readFraction : List Char → Option (Option (List Char) × List Char)
  | '.' :: cs => (readDigits cs).map fun r ↦ (some r.1, r.2)
  | cs => some (none, cs)

/-- Reads an exponent, if one starts here. -/
def readExponent : List Char → Option (Option (Bool × List Char) × List Char)
  | c :: cs =>
    if c == 'e' || c == 'E' then
      match cs with
      | '-' :: cs => (readDigits cs).map fun r ↦ (some (true, r.1), r.2)
      | '+' :: cs => (readDigits cs).map fun r ↦ (some (false, r.1), r.2)
      | cs => (readDigits cs).map fun r ↦ (some (false, r.1), r.2)
    else some (none, c :: cs)
  | [] => some (none, [])

/-- Whether the digits of an integer part are admissible: a zero stands alone. -/
def wellLed : List Char → Bool
  | '0' :: _ :: _ => false
  | _ => true

/-- Reads a number without its sign. -/
def readUnsigned (negative : Bool) (cs : List Char) : Option (Numeral × List Char) := do
  let (whole, cs) ← readDigits cs
  if wellLed whole then
    let (fraction, cs) ← readFraction cs
    let (exponent, cs) ← readExponent cs
    return (⟨negative, whole, fraction, exponent⟩, cs)
  else none

/-- Reads a number. -/
def readNumeral : List Char → Option (Numeral × List Char)
  | '-' :: cs => readUnsigned true cs
  | cs => readUnsigned false cs

/-! ### The size of a number -/

/-- The largest number of 64 bits. -/
def wordMax : Nat :=
  Nat.pow 2 64 - 1

/-- Takes digits up into a number as long as it fits 64 bits; gives the number and the digits that
are left. -/
def takeDigits (n : Nat) : List Char → Nat × List Char
  | [] => (n, [])
  | d :: ds =>
    let m := n * 10 + (d.toNat - '0'.toNat)
    if m ≤ wordMax then takeDigits m ds else (n, d :: ds)

/-- The nearest number of 53 significant bits, the even one if two are near. -/
def roundBits (n : Nat) : Nat :=
  if n < Nat.pow 2 53 then n
  else
    let s := n.log2 - 52
    let q := n / Nat.pow 2 s
    let r := n % Nat.pow 2 s
    let half := Nat.pow 2 (s - 1)
    (if half < r || (r == half && q % 2 == 1) then q + 1 else q) * Nat.pow 2 s

/-- Whether a number times a power of ten is too large for double precision. -/
def overflows (significand : Nat) (exponent : Int) : Bool :=
  significand != 0 && 0 ≤ exponent &&
    (308 < exponent ||
      Nat.pow 2 1024 ≤ roundBits (roundBits significand * roundBits (Nat.pow 10 exponent.toNat)))

/-- What a number is to a reader of integers. -/
inductive Number
  /-- An integer of at most 64 bits without sign. -/
  | unsigned (n : Nat)
  /-- An integer below zero of at most 64 bits. -/
  | negative
  /-- Any other number. -/
  | fractional
  deriving DecidableEq, Repr

namespace Numeral

/-- The number that is written, unless it is too large. -/
def number? (m : Numeral) : Option Number :=
  let (whole, left) := takeDigits 0 m.whole
  if m.fraction.isNone && m.exponent.isNone && left.isEmpty then
    if m.negative then
      some (if 0 < whole && whole ≤ Nat.pow 2 63 then .negative else .fractional)
    else some (.unsigned whole)
  else
    let fraction := m.fraction.getD []
    let (significand, unread) := takeDigits whole fraction
    let written : Int :=
      match m.exponent with
      | some (true, ds) => -(Nat.ofDigitChars 10 ds 0 : Int)
      | some (false, ds) => Nat.ofDigitChars 10 ds 0
      | none => 0
    if overflows significand (left.length - (fraction.length - unread.length : Nat) + written) then
      none
    else some .fractional

end Numeral

/-- A number as a value of a document. -/
def Number.node : Number → Node
  | unsigned n =>
    { Node.other with
      number :=
        match Decimal.fitWord n with
        | some w => .ok w
        | none => .error .wrongValue }
  | negative => { Node.other with number := .error .wrongValue }
  | fractional => Node.other

end Fitout.Json
