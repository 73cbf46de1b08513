import Fitout.Document.Fault

/-!
# Outlines of documents

The outline of a document is what its format says about it before any field is considered: the
entries of a record in text order, each a key with a value, and how the text goes on after them.
It goes as far as the text is well formed. A value says for itself what it is as a number, as a
text and as an optional value, since the formats differ in what they take for these.

Reading an outline goes from left to right, so of several faults the first in the text counts.
-/

namespace Fitout

/-- A value in a document. -/
structure Node where
  /-- The value as an unsigned 32-bit number. -/
  number : Except Fault UInt32
  /-- The value as a text. -/
  text : Except Fault String
  /-- Whether the value stands for an absent optional one. -/
  absent : Except Fault Bool
  /-- Why the value is no record. -/
  noRecord : Fault := .wrongType

namespace Node

/-- A place where the text is malformed. -/
def malformed : Node where
  number := .error .malformed
  text := .error .malformed
  absent := .error .malformed

/-- A value that is neither a number nor a text, such as a list. -/
def other : Node where
  number := .error .wrongType
  text := .error .wrongType
  absent := .ok false

/-- Reads an optional value. -/
def optional {α : Type} (read : Node → Except Fault α) (n : Node) : Except Fault (Option α) := do
  if ← n.absent then return none
  else return some (← read n)

end Node

/-- What follows the last entry of a record. -/
inductive Ending
  /-- The text breaks off or is malformed inside the record. -/
  | broken
  /-- The record ends; `clean` says whether nothing improper comes after it. -/
  | closed (clean : Bool)
  deriving DecidableEq, Repr

/-- An entry of a record: a key, unless it is no text, and a value. -/
structure Entry where
  /-- The key. -/
  key : Except Fault String
  /-- The value. -/
  value : Node

/-- What a document holds. -/
inductive Outline
  /-- Keys with values. -/
  | record (entries : List Entry) (ending : Ending)
  /-- Values without keys, standing for the fields of a record in their order. -/
  | list (elements : List Node) (ending : Ending)
  /-- A single value; `clean` says whether nothing improper comes after it. -/
  | single (value : Node) (clean : Bool)
  /-- Nothing: a record without entries, or the value that stands for nothing. -/
  | blank (value : Node) (clean : Bool)
  /-- The text is malformed before it shows what it holds. -/
  | broken

/-- A result that holds only if nothing improper follows. -/
def Fault.unlessClean {α : Type} (clean : Bool) (a : α) : Except Fault α :=
  if clean then .ok a else .error .malformed

/-- When a single value of a document is checked. -/
inductive CheckTime
  /-- As soon as it is read. -/
  | atOnce
  /-- When the text is read to its end. -/
  | atEnd
  deriving DecidableEq, Repr

/-- Reads a document of a single value, which is checked. -/
def Outline.readSingle {α β : Type} (time : CheckTime) (read : Node → Except Fault α)
    (check : α → Except Fault β) : Outline → Except Fault β
  | single value clean | blank value clean => do
    let a ← read value
    match time with
    | .atOnce => Fault.unlessClean clean (← check a)
    | .atEnd => check (← Fault.unlessClean clean a)
  | record _ _ | list _ _ => .error .wrongType
  | broken => .error .malformed

end Fitout
