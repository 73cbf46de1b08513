import Fitout.Yaml.Cursor

/-!
# Plain and quoted scalars

Scalars that flow over lines. Between two characters of such a scalar may stand a gap of blanks
and line breaks. A gap on one line is kept; a gap with line breaks is folded: the first break
becomes a space if it is the only one and is dropped otherwise.
-/

namespace Fitout.Yaml

/-- What stands between two characters of a scalar. Lists are kept with the last character
first. -/
inductive Gap
  /-- Nothing. -/
  | none
  /-- Blanks on one line. -/
  | blanks (rev : List Char)
  /-- A line break, unless it is escaped, and more of them; blanks around them do not count. -/
  | breaks (first : Option Char) (rev : List Char)
  deriving DecidableEq, Repr

namespace Gap

/-- Whether the gap reaches over a line break. -/
def isBroken : Gap → Bool
  | breaks _ _ => true
  | _ => false

/-- The gap with one more blank. -/
def addBlank (c : Char) : Gap → Gap
  | none => blanks [c]
  | blanks rev => blanks (c :: rev)
  | breaks first rev => breaks first rev

/-- The gap with one more line break. -/
def addBreak (c : Char) : Gap → Gap
  | none | blanks _ => breaks (some c) []
  | breaks first rev => breaks first (c :: rev)

/-- What the gap contributes to the scalar. -/
def fold : Gap → List Char
  | none => []
  | blanks rev => rev.reverse
  | breaks (some '\n') [] => [' ']
  | breaks (some '\n') rev => rev.reverse
  | breaks (some c) rev => c :: rev.reverse
  | breaks Option.none rev => rev.reverse

end Gap

/-- A scalar that has been read, and where it ends. -/
structure ScalarEnd where
  /-- The text of the scalar. -/
  text : List Char
  /-- The place after it. -/
  cursor : Cursor
  /-- Whether line breaks were passed over after its last character. -/
  broken : Bool := false

/-- A scalar with more text in front. -/
def ScalarEnd.prepend (cs : List Char) (e : ScalarEnd) : ScalarEnd :=
  { e with text := cs ++ e.text }

/-! ### Plain scalars -/

/-- The characters that stop a plain scalar inside brackets or braces. -/
def isFlowStop (c : Char) : Bool :=
  c == ',' || c == '\x5b' || c == '\x5d' || c == '\x7b' || c == '\x7d'

/-- The characters that may not follow a colon in a plain scalar inside brackets or braces. -/
def isColonFault (c : Char) : Bool :=
  isFlowStop c || c == '?'

/-- Whether a plain scalar stops before a character that goes on as `cs`. -/
def stopsPlain (flow : Bool) (c : Char) (cs : List Char) : Bool :=
  (c == ':' && atSpace cs) || (flow && isFlowStop c)

/-- Whether a plain scalar stops after a gap because the line is indented too little. -/
def isOutdented (flow : Bool) (edge : Nat) (m : Mark) : Bool :=
  !flow && m.column < edge

/-- Whether a plain scalar stops after a gap, before a character at `m`: a document indicator
starts, or a comment. -/
def stopsAfterGap (m : Mark) (c : Char) (cs : List Char) : Bool :=
  (m.column == 0 && startsIndicator (c :: cs)) || c == '#'

/-- How many characters must be in sight at a character of a plain scalar. Inside a run the next
one may be a colon's follower; a new run may start with a document indicator. -/
def plainSight (flow : Bool) (edge : Nat) (gap : Gap) (m : Mark) (c : Char) : Nat :=
  if gap == .none || isBreak c then 2
  else if isBlank c || isOutdented flow edge m then 1
  else 4

/-- Reads a plain scalar. Lines after the first start at column `edge` at least, outside brackets
and braces. The result is nothing if the scalar is malformed. -/
def plainScalar (barred flow : Bool) (edge : Nat) : Gap → Mark → List Char → Option ScalarEnd
  | gap, m, [] => if barred then none else some ⟨[], ⟨[], m, barred⟩, gap.isBroken⟩
  | gap, m, c :: cs =>
    if !inSight barred (plainSight flow edge gap m c) (c :: cs) then none
    else if isBlank c then
      if gap.isBroken && m.column < edge && c == '\t' then none
      else plainScalar barred flow edge (gap.addBlank c) (m.step c) cs
    else if isBreak c then plainScalar barred flow edge (gap.addBreak c) m.newLine cs
    else if gap != .none && (isOutdented flow edge m || stopsAfterGap m c cs) then
      some ⟨[], ⟨c :: cs, m, barred⟩, gap.isBroken⟩
    else if flow && c == ':' && cs.head?.any isColonFault then none
    else if stopsPlain flow c cs then some ⟨[], ⟨c :: cs, m, barred⟩, gap.isBroken⟩
    else (plainScalar barred flow edge .none (m.step c) cs).map (.prepend (gap.fold ++ [c]))

/-! ### Single-quoted scalars -/

/-- How many characters must be in sight at a character of a quoted scalar. Inside a run the next
one may belong to an escape; a new run may start with a document indicator. A closing quote right
after an escaped line break starts no run. -/
def quotedSight (quote : Char) (gap : Gap) (c : Char) : Nat :=
  if gap == .none || isBreak c then 2
  else if isBlank c || (gap == .breaks none [] && c == quote) then 1
  else 4

/-- Reads a single-quoted scalar after its opening quote. A quote inside is written twice. -/
def singleQuoted (barred : Bool) : Gap → Mark → List Char → Option ScalarEnd
  | _, _, [] => none
  | gap, m, '\x27' :: cs =>
    if !inSight barred (quotedSight '\x27' gap '\x27') ('\x27' :: cs) then none
    else
      match cs with
      | '\x27' :: cs =>
        (singleQuoted barred .none ((m.step '\x27').step '\x27') cs).map
          (.prepend (gap.fold ++ ['\x27']))
      | cs => some { text := gap.fold, cursor := ⟨cs, m.step '\x27', barred⟩ }
  | gap, m, c :: cs =>
    if !inSight barred (quotedSight '\x27' gap c) (c :: cs) then none
    else if isBlank c then singleQuoted barred (gap.addBlank c) (m.step c) cs
    else if isBreak c then singleQuoted barred (gap.addBreak c) m.newLine cs
    else if m.column == 0 && startsIndicator (c :: cs) then none
    else (singleQuoted barred .none (m.step c) cs).map (.prepend (gap.fold ++ [c]))

/-! ### Double-quoted scalars -/

/-- The character after a backslash that stands for one character by itself. -/
def shortEscape? : Char → Option Char
  | '0' => some '\x00'
  | 'a' => some '\x07'
  | 'b' => some '\x08'
  | 't' | '\t' => some '\t'
  | 'n' => some '\n'
  | 'v' => some '\x0b'
  | 'f' => some '\x0c'
  | 'r' => some '\r'
  | 'e' => some '\x1b'
  | ' ' => some ' '
  | '\x22' => some '\x22'
  | '/' => some '/'
  | '\\' => some '\\'
  | 'N' => some (Char.ofNat 0x85)
  | '_' => some (Char.ofNat 0xA0)
  | 'L' => some (Char.ofNat 0x2028)
  | 'P' => some (Char.ofNat 0x2029)
  | _ => none

/-- The value of a hexadecimal digit. -/
def hexDigit? (c : Char) : Option Nat :=
  if '0' ≤ c ∧ c ≤ '9' then some (c.toNat - '0'.toNat)
  else if 'a' ≤ c ∧ c ≤ 'f' then some (c.toNat - 'a'.toNat + 10)
  else if 'A' ≤ c ∧ c ≤ 'F' then some (c.toNat - 'A'.toNat + 10)
  else none

/-- The number that hexadecimal digits stand for. -/
def hexNumber? (cs : List Char) : Option Nat :=
  cs.foldlM (fun n c ↦ (hexDigit? c).map (n * 16 + ·)) 0

/-- The character of a code point written in hexadecimal digits. -/
def hexChar? (cs : List Char) : Option Char := do
  let n ← hexNumber? cs
  if n.isValidChar then some (Char.ofNat n) else none

/-- Reads a double-quoted scalar after its opening quote. A backslash starts an escape; before a
line break it escapes the break. -/
def doubleQuoted (barred : Bool) : Gap → Mark → List Char → Option ScalarEnd
  | _, _, [] => none
  | gap, m, '\x22' :: cs =>
    if !inSight barred (quotedSight '\x22' gap '\x22') ('\x22' :: cs) then none
    else some { text := gap.fold, cursor := ⟨cs, m.step '\x22', barred⟩ }
  | gap, m, '\\' :: 'x' :: a :: b :: cs => do
    let c ← hexChar? [a, b]
    (doubleQuoted barred .none (m.steps ['\\', 'x', a, b]) cs).map (.prepend (gap.fold ++ [c]))
  | gap, m, '\\' :: 'u' :: a :: b :: c :: d :: cs => do
    let x ← hexChar? [a, b, c, d]
    (doubleQuoted barred .none (m.steps ['\\', 'u', a, b, c, d]) cs).map
      (.prepend (gap.fold ++ [x]))
  | gap, m, '\\' :: 'U' :: a :: b :: c :: d :: e :: f :: g :: h :: cs => do
    let x ← hexChar? [a, b, c, d, e, f, g, h]
    (doubleQuoted barred .none (m.steps ['\\', 'U', a, b, c, d, e, f, g, h]) cs).map
      (.prepend (gap.fold ++ [x]))
  | gap, m, '\\' :: c :: cs =>
    let sight := quotedSight '\x22' gap '\\'
    if !inSight barred (if isBreak c then max 3 sight else sight) ('\\' :: c :: cs) then none
    else if isBreak c then
      (doubleQuoted barred (.breaks none []) (m.step '\\').newLine cs).map (.prepend gap.fold)
    else do
      let x ← shortEscape? c
      (doubleQuoted barred .none ((m.step '\\').step c) cs).map (.prepend (gap.fold ++ [x]))
  | gap, m, c :: cs =>
    if !inSight barred (quotedSight '\x22' gap c) (c :: cs) then none
    else if isBlank c then doubleQuoted barred (gap.addBlank c) (m.step c) cs
    else if isBreak c then doubleQuoted barred (gap.addBreak c) m.newLine cs
    else if c == '\\' || (m.column == 0 && startsIndicator (c :: cs)) then none
    else (doubleQuoted barred .none (m.step c) cs).map (.prepend (gap.fold ++ [c]))

end Fitout.Yaml
