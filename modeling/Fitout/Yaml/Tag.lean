import Fitout.Yaml.FlowScalar
import Fitout.Yaml.Token

/-!
# Tags, anchors and directives

The parts of a document that speak about nodes or about the document itself, each written on one
line.
-/

namespace Fitout.Yaml

/-! ### Anchors -/

/-- Whether what follows an anchor or alias may follow its name. -/
def endsName : List Char → Bool
  | [] => true
  | c :: _ =>
    isSpace c || c == '?' || c == ':' || c == ',' || c == '\x5d' || c == '\x7d' || c == '%' ||
      c == '@' || c == '\x60'

/-- Reads the name of an anchor or alias after its indicator. -/
def anchorName (c : Cursor) : Option (List Char × Cursor) :=
  let name := c.rest.takeWhile isNameChar
  let c := c.forward name.length
  if name.isEmpty || !endsName c.rest then none else some (name, c)

/-! ### Tags -/

/-- The characters of tags that are written as they are. -/
def isTagChar (wide : Bool) (c : Char) : Bool :=
  isNameChar c || ";/?:@&=+$.!~*'()".toList.contains c || (wide && (c == ',' || c == '\x5b' || c == '\x5d'))

/-- The byte of a percent sign and two hexadecimal digits, and the rest. -/
def escapedByte? : List Char → Option (UInt8 × List Char)
  | '%' :: a :: b :: cs => (hexNumber? [a, b]).map fun n ↦ (n.toUInt8, cs)
  | _ => none

/-- Reads `n` escaped bytes that continue a character in UTF-8. -/
def continuation : Nat → List Char → Option (TagBytes × List Char)
  | 0, cs => some ([], cs)
  | n + 1, cs => do
    let (b, cs) ← escapedByte? cs
    if b.toNat / 64 == 2 then
      let (bs, cs) ← continuation n cs
      return (b :: bs, cs)
    else none

/-- How many bytes follow the first byte of a character in UTF-8; only its leading bits count. -/
def followers? (b : UInt8) : Option Nat :=
  if b.toNat < 0x80 then some 0
  else if b.toNat / 32 == 6 then some 1
  else if b.toNat / 16 == 14 then some 2
  else if b.toNat / 8 == 30 then some 3
  else none

/-- Reads the escaped bytes of a character. Whether they are those of a character indeed is left
open. -/
def escapedBytes (cs : List Char) : Option (TagBytes × List Char) := do
  let (b, cs) ← escapedByte? cs
  let (bs, cs) ← continuation (← followers? b) cs
  return (b :: bs, cs)

/-- Reads the characters of a tag. Each takes up a character of the text at least, so the length
of the text bounds their number. -/
def tagChars (wide : Bool) : Nat → List Char → Option (TagBytes × List Char)
  | 0, cs => some ([], cs)
  | bound + 1, cs =>
    match cs with
    | '%' :: _ => do
      let (bs, cs) ← escapedBytes cs
      let (t, cs) ← tagChars wide bound cs
      return (bs ++ t, cs)
    | c :: rest =>
      if isTagChar wide c then do
        let (t, cs) ← tagChars wide bound rest
        return (c.toUInt8 :: t, cs)
      else some ([], c :: rest)
    | [] => some ([], [])

/-- Reads the characters of a tag as far as they go. -/
def tagUri (wide : Bool) (c : Cursor) : Option (TagBytes × Cursor) := do
  let (t, rest) ← tagChars wide c.rest.length c.rest
  return (t, c.forwardTo rest)

/-- A tag up to its first byte zero, where it ends. -/
def cutTag (t : TagBytes) : TagBytes :=
  t.takeWhile (· != 0)

/-- The characters of ASCII as bytes. -/
def asciiBytes (cs : List Char) : TagBytes :=
  cs.map Char.toUInt8

/-- Reads a handle: an exclamation mark, a name, and perhaps another exclamation mark. -/
def tagHandle (c : Cursor) : Option (List Char × Cursor) :=
  match c.rest with
  | '!' :: rest =>
    let name := rest.takeWhile isNameChar
    let c := c.forward (name.length + 1)
    match c.rest with
    | '!' :: _ => some (['!'] ++ name ++ ['!'], c.forward 1)
    | _ => some ('!' :: name, c)
  | _ => none

/-- Whether what has been read as a handle is one, with exclamation marks at both ends. -/
def isHandle (handle : List Char) : Bool :=
  2 ≤ handle.length && handle.getLast? == some '!'

/-- Reads a tag. A lone exclamation mark is the whole tag; it has no handle. -/
def tagRef (flow : Bool) (c : Cursor) : Option (TagRef × Cursor) := do
  let (t, c) ←
    match c.rest with
    | '!' :: '<' :: _ => do
      let (uri, c) ← tagUri true (c.forward 2)
      if uri.isEmpty || c.rest.head? != some '>' then none
      else some (⟨[], uri⟩, c.forward 1)
    | _ => do
      let (handle, c) ← tagHandle c
      let (uri, c) ← tagUri false c
      if isHandle handle then
        if uri.isEmpty then none else some (⟨handle, uri⟩, c)
      else
        let suffix := asciiBytes (handle.drop 1) ++ uri
        some (if (cutTag suffix).isEmpty then ⟨[], asciiBytes ['!']⟩ else ⟨['!'], suffix⟩, c)
  if atSpace c.rest || (flow && c.rest.head? == some ',') then return (t, c) else none

/-! ### Directives -/

/-- Reads a version number: at most nine digits. -/
def versionNumber (c : Cursor) : Option (Nat × Cursor) :=
  let ds := c.rest.takeWhile Char.isDigit
  if ds.isEmpty || 9 < ds.length then none
  else some (Nat.ofDigitChars 10 ds 0, c.forward ds.length)

/-- Reads the version that a directive states. -/
def versionValue (c : Cursor) : Option (Token × Cursor) := do
  let (major, c) ← versionNumber c
  if c.rest.head? != some '.' then none
  else
    let (minor, c) ← versionNumber (c.forward 1)
    return (.versionDirective major minor, c)

/-- Reads the handle that a directive explains, and what it stands for. -/
def tagValue (c : Cursor) : Option (Token × Cursor) := do
  let (handle, c) ← tagHandle c
  if handle != ['!'] && !isHandle handle then none
  else if !c.rest.head?.any isBlank then none
  else
    let (uri, c) ← tagUri true (c.skipWhile isBlank)
    if uri.isEmpty || !atSpace c.rest then none
    else return (.tagDirective handle uri, c)

end Fitout.Yaml
