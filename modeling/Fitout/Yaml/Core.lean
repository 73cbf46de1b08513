import Fitout.Text.Decimal

/-!
# What plain scalars stand for

A plain scalar may spell nothing, a truth value or a number. The rules here serve both ways: a
reader takes such scalars for what they spell, and a writer quotes a text that would be taken for
something else.
-/

namespace Fitout.Yaml

/-- The spellings of nothing, the empty text apart. -/
def isNull (cs : List Char) : Bool :=
  ["~", "null", "Null", "NULL"].any (·.toList == cs)

/-- The spellings of truth values. -/
def isBool (cs : List Char) : Bool :=
  ["true", "True", "TRUE", "false", "False", "FALSE"].any (·.toList == cs)

/-! ### Integers -/

/-- The value of a digit in a base of at most sixteen. -/
def digit? (base : Nat) (c : Char) : Option Nat :=
  let n :=
    if '0' ≤ c ∧ c ≤ '9' then c.toNat - '0'.toNat
    else if 'a' ≤ c ∧ c ≤ 'f' then c.toNat - 'a'.toNat + 10
    else if 'A' ≤ c ∧ c ≤ 'F' then c.toNat - 'A'.toNat + 10
    else base
  if n < base then some n else none

/-- The number that digits stand for; there is at least one. -/
def digits? (base : Nat) (cs : List Char) : Option Nat :=
  if cs.isEmpty then none else cs.foldlM (fun n c ↦ (digit? base c).map (n * base + ·)) 0

/-- The base that a letter after a zero announces. -/
def base? : Char → Option Nat
  | 'x' => some 16
  | 'o' => some 8
  | 'b' => some 2
  | _ => none

/-- A text without its plus sign. -/
def dropPlus : List Char → List Char
  | '+' :: cs => cs
  | cs => cs

/-- A text without its sign. -/
def dropSign : List Char → List Char
  | '+' :: cs | '-' :: cs => cs
  | cs => cs

/-- Digits with a zero in front, which are not taken for a number. -/
def isZeroLed (cs : List Char) : Bool :=
  match dropSign cs with
  | '0' :: d :: ds => (d :: ds).all Char.isDigit
  | _ => false

/-- The number that digits stand for, perhaps in a base that is announced. -/
def basedNumber? : List Char → Option Nat
  | '0' :: b :: cs =>
    match base? b with
    | some base => digits? base cs
    | none => digits? 10 ('0' :: b :: cs)
  | cs => digits? 10 cs

/-- The number without minus sign that a text spells. -/
def unsigned? (cs : List Char) : Option Nat :=
  if isZeroLed cs then none else basedNumber? (dropPlus cs)

/-- The absolute value of the number with minus sign that a text spells. -/
def negative? (cs : List Char) : Option Nat :=
  match cs with
  | '-' :: rest => if isZeroLed cs then none else basedNumber? rest
  | _ => none

/-- Whether a text spells an integer of at most 128 bits. -/
def isInteger (cs : List Char) : Bool :=
  (unsigned? cs).any (· < Nat.pow 2 128) || (negative? cs).any (· ≤ Nat.pow 2 127)

/-! ### Numbers with fractions -/

/-- Whether a number, its digits without point and its exponent of ten, is finite in double
precision: below the midpoint between the largest double and the power of two above it. -/
def isFinite (digits : List Char) (exponent : Int) : Bool :=
  let n := Nat.ofDigitChars 10 digits 0
  let size : Int := (digits.dropWhile (· == '0')).length + exponent
  let bound : Nat := Nat.pow 2 1024 - Nat.pow 2 970
  if n == 0 || size ≤ 300 then true
  else if 310 ≤ size then false
  else if 0 ≤ exponent then n * Nat.pow 10 exponent.toNat < bound
  else n < bound * Nat.pow 10 (-exponent).toNat

/-- The exponent at the end of a number; nothing if what stands there is no exponent. -/
def exponent? : List Char → Option Int
  | [] => some 0
  | c :: cs =>
    if c == 'e' || c == 'E' then
      match cs with
      | '-' :: cs => (digits? 10 cs).map fun n ↦ -(n : Int)
      | '+' :: cs => (digits? 10 cs).map Int.ofNat
      | cs => (digits? 10 cs).map Int.ofNat
    else none

/-- Whether a text spells a finite number without sign: digits, at least one, with a point
anywhere or nowhere, and perhaps an exponent. -/
def isDecimal (cs : List Char) : Bool :=
  let whole := cs.takeWhile Char.isDigit
  let rest := cs.dropWhile Char.isDigit
  let (fraction, rest) :=
    match rest with
    | '.' :: r => (r.takeWhile Char.isDigit, r.dropWhile Char.isDigit)
    | r => ([], r)
  if whole.isEmpty && fraction.isEmpty then false
  else
    match exponent? rest with
    | some e => isFinite (whole ++ fraction) (e - fraction.length)
    | none => false

/-- The spellings of infinity without sign. -/
def isInfinity (cs : List Char) : Bool :=
  [".inf", ".Inf", ".INF"].any (·.toList == cs)

/-- The spellings of what is not a number. -/
def isNotNumber (cs : List Char) : Bool :=
  [".nan", ".NaN", ".NAN"].any (·.toList == cs)

/-- Whether a text spells a number in double precision. -/
def isFloat (cs : List Char) : Bool :=
  isInfinity (dropSign cs) || isNotNumber cs || isDecimal (dropSign cs)

/-- Whether a plain scalar stands for something else than its own text. Digits with a zero in
front are such, although they are not taken for a number. -/
def isSpecial (cs : List Char) : Bool :=
  cs.isEmpty || isNull cs || isBool cs || isInteger cs || isZeroLed cs || isFloat cs

end Fitout.Yaml
