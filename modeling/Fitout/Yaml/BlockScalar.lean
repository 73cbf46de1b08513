import Fitout.Yaml.FlowScalar

/-!
# Block scalars

Literal and folded scalars: an indicator with a header, then lines of one indentation. A literal
scalar keeps its line breaks; a folded one joins neighbouring lines that do not start with a
blank. The header may fix the indentation and say what becomes of the breaks at the end.
-/

namespace Fitout.Yaml

/-- What becomes of the line breaks at the end of a block scalar. -/
inductive Chomping
  /-- All are dropped. -/
  | strip
  /-- The first is kept. -/
  | clip
  /-- All are kept. -/
  | keep
  deriving DecidableEq, Repr

/-- The header of a block scalar. -/
structure BlockHeader where
  /-- What becomes of the line breaks at the end. -/
  chomping : Chomping := .clip
  /-- The stated indentation, one digit; zero if it is left to the text. -/
  increment : Nat := 0
  deriving DecidableEq, Repr

/-- Reads the sign of a header, if it is there. -/
def chompingSign : List Char → Option (Chomping × List Char)
  | '+' :: cs => some (.keep, cs)
  | '-' :: cs => some (.strip, cs)
  | _ => none

/-- Reads the digit of a header, if it is there; zero is not admissible. -/
def incrementDigit : List Char → Option (Nat × List Char)
  | c :: cs => if c.isDigit then some (c.toNat - '0'.toNat, cs) else some (0, c :: cs)
  | [] => some (0, [])

/-- Reads the sign and the digit of a header in either order. -/
def blockHeader (cs : List Char) : Option (BlockHeader × List Char) :=
  match chompingSign cs with
  | some (chomping, cs) =>
    match cs with
    | '0' :: _ => none
    | _ => (incrementDigit cs).map fun r ↦ (⟨chomping, r.1⟩, r.2)
  | none =>
    match cs with
    | '0' :: _ => none
    | _ => do
      let (increment, cs) ← incrementDigit cs
      if increment == 0 then return ({}, cs)
      else
        match chompingSign cs with
        | some (chomping, cs) => return (⟨chomping, increment⟩, cs)
        | none => return (⟨.clip, increment⟩, cs)

/-- The lines without content before the next line of a scalar. -/
structure BlockGap where
  /-- Their line breaks, the last one first. -/
  rev : List Char
  /-- The greatest column reached. -/
  reach : Nat
  /-- The place at the next line, after its indentation. -/
  cursor : Cursor

/-- Passes over indentation and lines without content. `indent` is the indentation, or zero while
it is not known. A tab is not indentation. -/
def blockGap (barred : Bool) (indent : Nat) :
    List Char → Nat → Mark → List Char → Option BlockGap
  | rev, reach, m, [] => some ⟨rev, max reach m.column, ⟨[], m, barred⟩⟩
  | rev, reach, m, c :: cs =>
    let open_ := indent == 0 || m.column < indent
    if open_ && c == ' ' then blockGap barred indent rev reach (m.step c) cs
    else if open_ && c == '\t' then none
    else if isBreak c then blockGap barred indent (c :: rev) (max reach m.column) m.newLine cs
    else some ⟨rev, max reach m.column, ⟨c :: cs, m, barred⟩⟩

/-- A block scalar while it is read. -/
structure BlockState where
  /-- The break that ends the last line of content, if there is one. -/
  lineBreak : Option Char := none
  /-- The breaks of the lines without content after it, in order. -/
  blankBreaks : List Char := []
  /-- Whether the last line of content starts with a blank. -/
  ledByBlank : Bool := false

/-- What stands between the last line of content and the next one. -/
def BlockState.join (s : BlockState) (folded : Bool) (nextLedByBlank : Bool) : List Char :=
  if folded && s.lineBreak == some '\n' && !s.ledByBlank && !nextLedByBlank then
    if s.blankBreaks.isEmpty then [' '] else s.blankBreaks
  else s.lineBreak.toList ++ s.blankBreaks

/-- What stands after the last line of content. -/
def BlockState.finish (s : BlockState) : Chomping → List Char
  | .strip => []
  | .clip => s.lineBreak.toList
  | .keep => s.lineBreak.toList ++ s.blankBreaks

/-- Reads the lines of a block scalar. Every line takes up a character, so the length of the text
bounds their number. -/
def blockLines (folded : Bool) (chomping : Chomping) (indent : Nat) :
    Nat → BlockState → Cursor → Option ScalarEnd
  | 0, _, _ => none
  | bound + 1, s, c =>
    match c.rest with
    | [] => some { text := s.finish chomping, cursor := c }
    | first :: _ =>
      if c.mark.column != indent then some { text := s.finish chomping, cursor := c }
      else do
        let content := c.rest.takeWhile (!isBreak ·)
        let c := c.forward content.length
        let ledByBlank := isBlank first
        match c.rest with
        | [] =>
          let e ← blockLines folded chomping indent bound { ledByBlank } c
          return e.prepend (s.join folded ledByBlank ++ content)
        | b :: rest =>
          let gap ← blockGap c.barred indent [] 0 c.mark.newLine rest
          let e ← blockLines folded chomping indent bound
            ⟨some b, gap.rev.reverse, ledByBlank⟩ gap.cursor
          return e.prepend (s.join folded ledByBlank ++ content)

/-- The end of the line of a header: blanks, perhaps a comment, and a line break or the end. -/
def lineEnd (c : Cursor) : Option Cursor :=
  let c := c.skipWhile isBlank
  let c := if c.rest.head? == some '#' then c.skipWhile (!isBreak ·) else c
  match c.rest with
  | [] => some c
  | b :: rest => if isBreak b then some { c with rest, mark := c.mark.newLine } else none

/-- Reads a block scalar after its indicator. `parent` is the indentation of the surrounding
block, one more than its column. -/
def blockScalar (folded : Bool) (parent : Nat) (c : Cursor) : Option ScalarEnd := do
  let (header, rest) ← blockHeader c.rest
  let c ← lineEnd (c.forwardTo rest)
  let stated := if header.increment == 0 then 0 else parent - 1 + header.increment
  let gap ← blockGap c.barred stated [] 0 c.mark c.rest
  let indent := if stated == 0 then max (max gap.reach parent) 1 else stated
  blockLines folded header.chomping indent (gap.cursor.rest.length + 1)
    { blankBreaks := gap.rev.reverse } gap.cursor

end Fitout.Yaml
