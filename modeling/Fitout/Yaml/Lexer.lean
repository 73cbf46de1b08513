import Fitout.Yaml.BlockScalar
import Fitout.Yaml.Page
import Fitout.Yaml.Tag

/-!
# Tokens from texts

A lexer takes tokens off a text on demand. Two things make it more than a table of indicators.

* *Indentation.* Outside brackets and braces a column further to the right opens a block and a
  column further to the left closes blocks.
* *Keys.* A node may turn out to be a key only when a colon follows it. So the lexer keeps, for
  every level of brackets, the place where a key may have started, and puts the tokens of the key
  in front of that place when the colon comes. A key stays on one line, within 1024 bytes.

A token is handed out once no key can start at it any more.
-/

namespace Fitout.Yaml

/-- A place where a key may have started. -/
structure KeyStart where
  /-- Whether it must be a key, since it starts a line of an open block. -/
  required : Bool
  /-- How many brackets and braces are open there. -/
  level : Nat
  /-- How many tokens come before it in the text. -/
  number : Nat
  /-- The place. -/
  mark : Mark
  deriving DecidableEq, Repr

/-- A text of which the first tokens are taken off. -/
structure Lexer where
  /-- Where the next token is looked for. -/
  cursor : Cursor
  /-- The length of the whole text. -/
  size : Nat
  /-- How many brackets and braces are open. -/
  flow : Nat := 0
  /-- The tokens that are found but not yet handed out. -/
  queue : List Token := []
  /-- How many tokens are handed out. -/
  taken : Nat := 0
  /-- The column of the innermost open block, or -1. -/
  indent : Int := -1
  /-- The columns of the blocks around it, the innermost first. -/
  outer : List Int := []
  /-- Whether a key may start here. -/
  keyAllowed : Bool := true
  /-- The places where keys may have started, at most one for each level of brackets, the outermost
  and so the earliest first. -/
  keys : List KeyStart := []

namespace Lexer

/-! ### Blanks and comments -/

/-- The byte order mark, which is passed over at the start of a line. -/
def isOrderMark (c : Char) : Bool :=
  c.toNat == 0xFEFF

/-- Passes over blanks, comments and line breaks; tells whether a key may start after them, and
gives the place reached with the rest of the text. -/
def skipSpace (flow : Bool) : Bool → Bool → Mark → List Char → Bool × Mark × List Char
  | allowed, _, m, [] => (allowed, m, [])
  | allowed, comment, m, c :: cs =>
    if isBreak c then skipSpace flow (allowed || !flow) false m.newLine cs
    else if comment then skipSpace flow allowed true (m.step c) cs
    else if c == ' ' || (c == '\t' && (flow || !allowed)) || (m.column == 0 && isOrderMark c)
    then skipSpace flow allowed false (m.step c) cs
    else if c == '#' then skipSpace flow allowed true (m.step c) cs
    else (allowed, m, c :: cs)

/-- Goes to the start of the next token. -/
def toToken (l : Lexer) : Lexer :=
  let (allowed, mark, rest) := skipSpace (l.flow != 0) l.keyAllowed false l.cursor.mark l.cursor.rest
  { l with keyAllowed := allowed, cursor := { l.cursor with mark, rest } }

/-! ### Keys -/

/-- Whether a key that may have started at `k` can no longer be one at `m`. -/
def isStale (m : Mark) (k : KeyStart) : Bool :=
  k.mark.line < m.line || k.mark.index + 1024 < m.index

/-- Gives up the places where a key may have started that are too far away. They are the first
ones, since the later a place the nearer it is. -/
def dropStaleKeys (l : Lexer) : Option Lexer :=
  let stale := isStale l.cursor.mark
  if (l.keys.takeWhile stale).any (·.required) then none
  else some { l with keys := l.keys.dropWhile stale }

/-- The place where a key may have started on this level. -/
def key? (l : Lexer) : Option KeyStart :=
  l.keys.getLast?.filter (·.level == l.flow)

/-- Gives up the place where a key may have started on this level. -/
def dropKey (l : Lexer) : Option Lexer :=
  match l.key? with
  | some k => if k.required then none else some { l with keys := l.keys.dropLast }
  | none => some l

/-- Notes that a key may start here. -/
def noteKey (l : Lexer) : Option Lexer :=
  if l.keyAllowed then do
    let l ← l.dropKey
    let k : KeyStart :=
      { required := l.flow == 0 && l.indent == l.cursor.mark.column
        level := l.flow
        number := l.taken + l.queue.length
        mark := l.cursor.mark }
    return { l with keys := l.keys ++ [k] }
  else some l

/-! ### Blocks -/

/-- Adds a token. -/
def push (l : Lexer) (t : Token) : Lexer :=
  { l with queue := l.queue ++ [t] }

/-- Puts tokens in front of the place where `number` tokens come before. -/
def pushAt (l : Lexer) (number : Nat) (ts : List Token) : Lexer :=
  let before := number - l.taken
  { l with queue := l.queue.take before ++ ts ++ l.queue.drop before }

/-- Whether a column opens a block. -/
def opensAt (l : Lexer) (column : Nat) : Bool :=
  l.flow == 0 && l.indent < column

/-- Opens a block at a column. -/
def openBlock (l : Lexer) (column : Nat) : Lexer :=
  { l with indent := column, outer := l.indent :: l.outer }

/-- Opens a block that starts here with a token, if the column asks for one. -/
def openHere (l : Lexer) (t : Token) : Lexer :=
  if l.opensAt l.cursor.mark.column then (l.openBlock l.cursor.mark.column).push t else l

/-- The blocks that are left when those to the right of a column are closed, and how many those
are. -/
def closeFrom (column : Int) : Int → List Int → Nat × Int × List Int
  | indent, [] => (0, indent, [])
  | indent, next :: outer =>
    if column < indent then
      let (n, indent, outer) := closeFrom column next outer
      (n + 1, indent, outer)
    else (0, indent, next :: outer)

/-- Closes the blocks to the right of a column. -/
def closeBlocks (l : Lexer) (column : Int) : Lexer :=
  if l.flow == 0 then
    let (n, indent, outer) := closeFrom column l.indent l.outer
    { l with indent, outer, queue := l.queue ++ List.replicate n .blockEnd }
  else l

/-! ### Tokens of each kind -/

/-- Passes over the indicator of a token. -/
def forward (l : Lexer) (n : Nat) : Lexer :=
  { l with cursor := l.cursor.forward n }

/-- The lexer at a place, if the character there can be looked at. -/
def moveTo (l : Lexer) (c : Cursor) : Option Lexer :=
  if c.sees 1 then some { l with cursor := c } else none

/-- The lexer with a key allowed or not. -/
def allowKey (l : Lexer) (allowed : Bool) : Lexer :=
  { l with keyAllowed := allowed }

/-- The end of the text. -/
def addEnd (l : Lexer) : Option Lexer := do
  let m := l.cursor.mark
  let l := { l with cursor.mark := if m.column == 0 then m else ⟨m.index, m.line + 1, 0⟩ }
  let l ← (l.closeBlocks (-1)).dropKey
  return (l.allowKey false).push .streamEnd

/-- Three hyphens or dots at the start of a line. -/
def addIndicator (l : Lexer) (t : Token) : Option Lexer := do
  let l ← (l.closeBlocks (-1)).dropKey
  return ((l.allowKey false).forward 3).push t

/-- A directive. -/
def addDirective (l : Lexer) : Option Lexer := do
  let l ← (l.closeBlocks (-1)).dropKey
  let c := l.cursor.forward 1
  let name := c.rest.takeWhile isNameChar
  let c := c.forward name.length
  if !atSpace c.rest then none
  else
    let c := c.skipWhile isBlank
    let (t, c) ←
      if name = "YAML".toList then versionValue c
      else if name = "TAG".toList then tagValue c
      else none
    ((l.allowKey false).push t).moveTo (← lineEnd c)

/-- An opening bracket or brace. -/
def addOpening (l : Lexer) (t : Token) : Option Lexer := do
  let l ← l.noteKey
  return (({ l with flow := l.flow + 1 }.allowKey true).forward 1).push t

/-- A closing bracket or brace. -/
def addClosing (l : Lexer) (t : Token) : Option Lexer := do
  let l ← l.dropKey
  return (({ l with flow := l.flow - 1 }.allowKey false).forward 1).push t

/-- A comma. -/
def addFlowEntry (l : Lexer) : Option Lexer := do
  let l ← l.dropKey
  return ((l.allowKey true).forward 1).push .flowEntry

/-- A hyphen in front of an entry of a list. -/
def addBlockEntry (l : Lexer) : Option Lexer :=
  if l.flow == 0 && !l.keyAllowed then none
  else do
    let l ← (l.openHere .blockSequenceStart).dropKey
    return ((l.allowKey true).forward 1).push .blockEntry

/-- A question mark in front of a key. -/
def addKey (l : Lexer) : Option Lexer :=
  if l.flow == 0 && !l.keyAllowed then none
  else do
    let l ← (l.openHere .blockMappingStart).dropKey
    return ((l.allowKey (l.flow == 0)).forward 1).push .key

/-- A colon: what may have been a key is one. -/
def addValue (l : Lexer) : Option Lexer :=
  match l.key? with
  | some k =>
    let l := { l with keys := l.keys.dropLast }
    let l :=
      if l.opensAt k.mark.column then
        (l.openBlock k.mark.column).pushAt k.number [.blockMappingStart, .key]
      else l.pushAt k.number [.key]
    some (((l.allowKey false).forward 1).push .value)
  | none =>
    if l.flow == 0 && !l.keyAllowed then none
    else
      let l := if l.flow == 0 then l.openHere .blockMappingStart else l
      some (((l.allowKey (l.flow == 0)).forward 1).push .value)

/-- An anchor or an alias. -/
def addAnchor (l : Lexer) (token : List Char → Token) : Option Lexer := do
  let l ← l.noteKey
  let (name, c) ← anchorName (l.cursor.forward 1)
  ((l.allowKey false).push (token name)).moveTo c

/-- A tag. -/
def addTag (l : Lexer) : Option Lexer := do
  let l ← l.noteKey
  let (t, c) ← tagRef (l.flow != 0) l.cursor
  ((l.allowKey false).push (.tag t)).moveTo c

/-- The least column of the lines inside the innermost block. -/
def edge (l : Lexer) : Nat :=
  (l.indent + 1).toNat

/-- A literal or folded scalar. -/
def addBlockScalar (l : Lexer) (style : Style) : Option Lexer := do
  let l ← l.dropKey
  let e ← blockScalar (style == .folded) l.edge (l.cursor.forward 1)
  ((l.allowKey true).push (.scalar style e.text)).moveTo e.cursor

/-- A quoted scalar. -/
def addQuoted (l : Lexer) (style : Style)
    (read : Bool → Gap → Mark → List Char → Option ScalarEnd) : Option Lexer := do
  let l ← l.noteKey
  let c := l.cursor.forward 1
  if !c.sees 4 then none
  let e ← read c.barred .none c.mark c.rest
  return { (l.allowKey false).push (.scalar style e.text) with cursor := e.cursor }

/-- A plain scalar. After line breaks a key may start again. -/
def addPlain (l : Lexer) : Option Lexer := do
  let l ← l.noteKey
  let e ← plainScalar l.cursor.barred (l.flow != 0) l.edge .none l.cursor.mark l.cursor.rest
  return { (l.allowKey e.broken).push (.scalar .plain e.text) with cursor := e.cursor }

/-- Whether a plain scalar may start with a character that goes on as `cs`. -/
def startsPlain (flow : Bool) (c : Char) (cs : List Char) : Bool :=
  !(isSpace c || "-?:,[]\x7b\x7d#&*!|>'\x22%@\x60".toList.contains c) ||
    (c == '-' && !cs.head?.any isBlank) ||
    (!flow && (c == '?' || c == ':') && !atSpace cs)

/-- Finds the next token. A document indicator and what must follow it have to be in sight. -/
def addToken (l : Lexer) : Option Lexer := do
  let l ← l.toToken.dropStaleKeys
  if !l.cursor.sees 4 then none
  let l := l.closeBlocks l.cursor.mark.column
  let flow := l.flow != 0
  match l.cursor.rest with
  | [] => l.addEnd
  | c :: cs =>
    if l.cursor.mark.column == 0 && c == '%' then l.addDirective
    else if l.cursor.mark.column == 0 && startsIndicator (c :: cs) then
      l.addIndicator (if c == '-' then .documentStart else .documentEnd)
    else if c == '\x5b' then l.addOpening .flowSequenceStart
    else if c == '\x7b' then l.addOpening .flowMappingStart
    else if c == '\x5d' then l.addClosing .flowSequenceEnd
    else if c == '\x7d' then l.addClosing .flowMappingEnd
    else if c == ',' then l.addFlowEntry
    else if c == '-' && atSpace cs then l.addBlockEntry
    else if c == '?' && (flow || atSpace cs) then l.addKey
    else if c == ':' && (flow || atSpace cs) then l.addValue
    else if c == '*' then l.addAnchor .reference
    else if c == '&' then l.addAnchor .anchor
    else if c == '!' then l.addTag
    else if c == '|' && !flow then l.addBlockScalar .literal
    else if c == '>' && !flow then l.addBlockScalar .folded
    else if c == '\x27' then l.addQuoted .singleQuoted singleQuoted
    else if c == '\x22' then l.addQuoted .doubleQuoted doubleQuoted
    else if startsPlain flow c cs then l.addPlain
    else none

/-! ### Handing out tokens -/

/-- Whether the first token found may still get a key in front. Only the earliest place can be in
front of it, since the places follow each other as their tokens do. -/
def waits (l : Lexer) : Bool :=
  l.queue.isEmpty || l.keys.head?.any (·.number == l.taken)

/-- A bound on the number of tokens: every token but the last takes up characters, or stands for
one that does. -/
def bound (l : Lexer) : Nat :=
  l.size + 3

/-- Finds tokens until the first can be handed out. -/
def fill : Nat → Lexer → Option Lexer
  | 0, _ => none
  | bound + 1, l => do
    let l ← if l.queue.isEmpty then some l else l.dropStaleKeys
    if l.waits then fill bound (← l.addToken) else return l

/-- The next token, which stays where it is. -/
def peek (l : Lexer) : Option (Token × Lexer) := do
  let l ← l.fill l.bound
  match l.queue with
  | t :: _ => return (t, l)
  | [] => none

/-- Takes the next token off. -/
def skip (l : Lexer) : Lexer :=
  { l with queue := l.queue.drop 1, taken := l.taken + 1 }

/-- The lexer of a text. -/
def ofText (s : String) : Lexer :=
  { cursor := Cursor.ofText s.toList, size := s.length }

end Lexer

end Fitout.Yaml
