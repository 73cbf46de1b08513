import Fitout.Document.Scalar
import Fitout.Yaml.Core
import Fitout.Yaml.Cursor

/-!
# Writing YAML

A record is written one field to a line. A text is written plain where it would be read back as
itself, between single quotes where a plain scalar would mean something else, as a literal scalar
where it has line feeds, and between double quotes where it has characters that must be escaped.
Lines are never folded.
-/

namespace Fitout.Yaml

/-! ### What stands in a text -/

/-- The characters that are written as they are. -/
def isPrintable (c : Char) : Bool :=
  let n := c.toNat
  n == 0xA || (0x20 ≤ n && n ≤ 0x7E) || (0xA0 ≤ n && n ≤ 0xD7FF) ||
    (0xE000 ≤ n && n ≤ 0xFFFD && n != 0xFEFF) || 0x10000 ≤ n

/-- The line breaks as a writer sees them, among them the carriage return and the next-line
character. -/
def isAnyBreak (c : Char) : Bool :=
  isBreak c || c == '\r' || c.toNat == 0x85

/-- Whether two neighbours of a text satisfy a relation. -/
def anyNeighbours (p : Char → Char → Bool) : List Char → Bool
  | a :: b :: cs => p a b || anyNeighbours p (b :: cs)
  | _ => false

/-- The characters that may not start a plain scalar. -/
def isIndicator (c : Char) : Bool :=
  "#,[]\x7b\x7d&*!|>'\x22%@\x60".toList.contains c

/-- Whether a text ends here or goes on with a blank, a line break or NUL. -/
def atGap : List Char → Bool
  | [] => true
  | c :: _ => isBlank c || isAnyBreak c || c.toNat == 0

/-- Whether the start of a text would be taken for an indicator. -/
def startsAsIndicator : List Char → Bool
  | [] => false
  | c :: cs =>
    "---".toList.isPrefixOf (c :: cs) || "...".toList.isPrefixOf (c :: cs) || isIndicator c ||
      ((c == '-' || c == '?' || c == ':') && atGap cs)

/-- Whether a colon or a number sign inside a text would be taken for an indicator. -/
def holdsIndicator : List Char → Bool
  | a :: b :: cs => (b == ':' && atGap cs) || (b == '#' && atGap [a]) || holdsIndicator (b :: cs)
  | _ => false

/-- Whether a text has a space next to a line break, the space last. -/
def hasBreakSpace (cs : List Char) : Bool :=
  anyNeighbours (fun a b ↦ isAnyBreak a && b == ' ') cs

/-- Whether a text has a space next to a line break, the space first. -/
def hasSpaceBreak (cs : List Char) : Bool :=
  anyNeighbours (fun a b ↦ a == ' ' && isAnyBreak b) cs

/-- Whether a text can only be written with escapes. -/
def needsEscapes (cs : List Char) : Bool :=
  hasSpaceBreak cs || !cs.all isPrintable

/-- Whether a text may stand plain, as far as its characters are concerned. -/
def allowsPlain (cs : List Char) : Bool :=
  !(needsEscapes cs || cs.any isAnyBreak || cs.head? == some ' ' || cs.getLast? == some ' ' ||
    startsAsIndicator cs || holdsIndicator cs)

/-- Whether a text may stand between single quotes. -/
def allowsSingle (cs : List Char) : Bool :=
  !(needsEscapes cs || hasBreakSpace cs)

/-- Whether a text may be a literal scalar. -/
def allowsLiteral (cs : List Char) : Bool :=
  !(needsEscapes cs || cs.getLast? == some ' ')

/-! ### The forms of a text -/

/-- A text between single quotes; quotes in it are doubled, and a line after a break is
indented. -/
def singleForm (cs : List Char) : List Char :=
  let body := cs.foldr
    (fun c (r : List Char) ↦
      if c == '\x27' then ['\x27', '\x27'] ++ r
      else if isAnyBreak c && !r.head?.any isAnyBreak then [c, ' ', ' '] ++ r
      else c :: r) []
  ['\x27'] ++ body ++ ['\x27']

/-- The digits of a number in base sixteen, in upper case, at least `width` of them. -/
def hexDigits (width n : Nat) : List Char :=
  let ds := (Nat.toDigits 16 n).map Char.toUpper
  List.replicate (width - ds.length) '0' ++ ds

/-- How a character stands between double quotes. -/
def escape (c : Char) : List Char :=
  if isPrintable c && c != '\x22' && c != '\\' && !isAnyBreak c then [c]
  else
    match c.toNat with
    | 0x00 => ['\\', '0']
    | 0x07 => ['\\', 'a']
    | 0x08 => ['\\', 'b']
    | 0x09 => ['\\', 't']
    | 0x0A => ['\\', 'n']
    | 0x0B => ['\\', 'v']
    | 0x0C => ['\\', 'f']
    | 0x0D => ['\\', 'r']
    | 0x1B => ['\\', 'e']
    | 0x22 => ['\\', '\x22']
    | 0x5C => ['\\', '\\']
    | 0x85 => ['\\', 'N']
    | 0x2028 => ['\\', 'L']
    | 0x2029 => ['\\', 'P']
    | n =>
      if n ≤ 0xFF then ['\\', 'x'] ++ hexDigits 2 n
      else if n ≤ 0xFFFF then ['\\', 'u'] ++ hexDigits 4 n
      else ['\\', 'U'] ++ hexDigits 8 n

/-- A text between double quotes. -/
def doubleForm (cs : List Char) : List Char :=
  ['\x22'] ++ cs.flatMap escape ++ ['\x22']

/-- What the header of a literal scalar says about the line breaks at the end of a text. -/
def chompingSignOf (cs : List Char) : List Char :=
  match cs.reverse with
  | [] => ['-']
  | [c] => if isAnyBreak c then ['+'] else ['-']
  | c :: d :: _ => if !isAnyBreak c then ['-'] else if isAnyBreak d then ['+'] else []

/-- The lines of a literal scalar; every line that is not empty is indented. -/
def literalLines : Bool → List Char → List Char
  | _, [] => []
  | fresh, c :: cs =>
    if isAnyBreak c then c :: literalLines true cs
    else (if fresh then [' ', ' ', c] else [c]) ++ literalLines false cs

/-- A text as a literal scalar, without the line feed that ends it. -/
def literalForm (cs : List Char) : List Char :=
  ['|'] ++ (if cs.head?.any (fun c ↦ c == ' ' || isAnyBreak c) then ['2'] else []) ++
    chompingSignOf cs ++ ['\n'] ++ literalLines true cs

/-- A text as a scalar. -/
def writeText (cs : List Char) : List Char :=
  if cs.contains '\n' then if allowsLiteral cs then literalForm cs else doubleForm cs
  else if !isSpecial cs && allowsPlain cs then cs
  else if allowsSingle cs then singleForm cs
  else doubleForm cs

/-- A value as a scalar. -/
def writeScalar : Scalar → List Char
  | .number n => Nat.toDigits 10 n.toNat
  | .text s => writeText s.toList

/-- The line feed that ends a line, unless the line has ended. -/
def endLine (cs : List Char) : List Char :=
  if cs.getLast?.any isAnyBreak then cs else cs ++ ['\n']

/-- A field on its line. -/
def writeField (field : String × Scalar) : List Char :=
  endLine (field.1.toList ++ [':', ' '] ++ writeScalar field.2)

/-- A record, one field to a line. -/
def writeRecord (entries : List (String × Scalar)) : String :=
  String.ofList <|
    if entries.isEmpty then ['\x7b', '\x7d', '\n'] else entries.flatMap writeField

/-- A single value as a document. -/
def writeSingle (v : Scalar) : String :=
  String.ofList (endLine (writeScalar v))

end Fitout.Yaml
