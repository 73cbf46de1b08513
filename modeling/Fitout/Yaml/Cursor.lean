/-!
# Characters and places in YAML texts

Which characters a YAML text may have, how its line breaks are unified, and how a place in it is
counted. After unification the line breaks are the line feed and the two separators U+2028 and
U+2029, which are kept as they are.

A text may be barred: from some place on it cannot be read. What needs to look at a character there
fails, even if it would not take the character up.
-/

namespace Fitout.Yaml

/-- The characters that may stand in a text. -/
def isAllowed (c : Char) : Bool :=
  let n := c.toNat
  n == 0x9 || n == 0xA || n == 0xD || (0x20 ≤ n && n ≤ 0x7E) || n == 0x85 ||
    (0xA0 ≤ n && n ≤ 0xD7FF) || (0xE000 ≤ n && n ≤ 0xFFFD) || 0x10000 ≤ n

/-- Writes every carriage return, line feed, pair of both, and next-line character as a line
feed. -/
def unifyBreaks : List Char → List Char
  | '\r' :: '\n' :: cs => '\n' :: unifyBreaks cs
  | '\r' :: cs => '\n' :: unifyBreaks cs
  | c :: cs => (if c.toNat == 0x85 then '\n' else c) :: unifyBreaks cs
  | [] => []

/-- A space or a tab. -/
def isBlank (c : Char) : Bool :=
  c == ' ' || c == '\t'

/-- A line break of a unified text. -/
def isBreak (c : Char) : Bool :=
  c == '\n' || c.toNat == 0x2028 || c.toNat == 0x2029

/-- A blank or a line break. -/
def isSpace (c : Char) : Bool :=
  isBlank c || isBreak c

/-- Whether a text ends here or goes on with a blank or a line break. -/
def atSpace : List Char → Bool
  | [] => true
  | c :: _ => isSpace c

/-- The characters of names: letters and digits of ASCII, the hyphen and the underscore. -/
def isNameChar (c : Char) : Bool :=
  c.isAlphanum || c == '_' || c == '-'

/-- A place in a text. -/
structure Mark where
  /-- How many bytes of UTF-8 stand before it. -/
  index : Nat := 0
  /-- How many lines end before it. -/
  line : Nat := 0
  /-- How many characters stand before it on its line. -/
  column : Nat := 0
  deriving DecidableEq, Repr

namespace Mark

/-- The place after a character that is no line break. -/
def step (m : Mark) (c : Char) : Mark :=
  ⟨m.index + c.utf8Size, m.line, m.column + 1⟩

/-- The place after some characters without line breaks. -/
def steps (m : Mark) (cs : List Char) : Mark :=
  cs.foldl step m

/-- The place after a line break. -/
def newLine (m : Mark) : Mark :=
  ⟨m.index + 1, m.line + 1, 0⟩

end Mark

/-- Whether the next `n` characters can be looked at, when `cs` is what is left of a text that is
barred or not. At the end of a text that is not barred everything is known. -/
def inSight (barred : Bool) (n : Nat) (cs : List Char) : Bool :=
  !barred || !(cs.drop (n - 1)).isEmpty

/-- A place in a text with what follows it. -/
structure Cursor where
  /-- The text from here on. -/
  rest : List Char
  /-- The place. -/
  mark : Mark := {}
  /-- Whether the text goes on after `rest` where it cannot be read. -/
  barred : Bool := false
  deriving DecidableEq, Repr

namespace Cursor

/-- Whether the next `n` characters can be looked at. -/
def sees (c : Cursor) (n : Nat) : Bool :=
  inSight c.barred n c.rest

/-- Goes some characters further, none of them a line break. -/
def forward (c : Cursor) (n : Nat) : Cursor :=
  { c with rest := c.rest.drop n, mark := c.mark.steps (c.rest.take n) }

/-- Goes to the place where `rest` is left, with no line break on the way. -/
def forwardTo (c : Cursor) (rest : List Char) : Cursor :=
  c.forward (c.rest.length - rest.length)

/-- Passes over the characters of a class, none of them a line break. -/
def skipWhile (p : Char → Bool) (c : Cursor) : Cursor :=
  c.forward (c.rest.takeWhile p).length

end Cursor

/-- Whether a document indicator, three hyphens or three dots, stands at the start of a text. -/
def startsIndicator : List Char → Bool
  | '-' :: '-' :: '-' :: cs | '.' :: '.' :: '.' :: cs => atSpace cs
  | _ => false

end Fitout.Yaml
