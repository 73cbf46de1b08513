import Fitout.Document.Outline

/-!
# Shapes of records

A shape says which fields a record may have, how each is read, and what the whole amounts to.
Reading goes entry by entry: a key that is not the name of a field or stands a second time is a
fault before its value is looked at; that a field is missing shows only at the end.
-/

namespace Fitout

/-- A field of a record under construction. -/
structure Slot (σ : Type) where
  /-- The key of the field. -/
  name : String
  /-- Reads a value into the field. -/
  read : Node → σ → Except Fault σ

/-- A kind of record. -/
structure Shape (σ α : Type) where
  /-- The fields in declaration order. -/
  slots : List (Slot σ)
  /-- The record without entries. -/
  start : σ
  /-- The finished record, or the name of the first field that is missing. -/
  finish : σ → Except String α

namespace Shape

variable {σ α : Type} (shape : Shape σ α)

/-- The end of a record. A missing field, which becomes a fault by `fault`, is named before
anything that follows the record is looked at. -/
def close (fault : String → Fault) (clean : Bool) (s : σ) : Except Fault α := do
  let a ← (shape.finish s).mapError fault
  Fault.unlessClean clean a

/-- Reads the entries of a record; `seen` are the keys so far. -/
def readEntries (ending : Ending) : List Entry → List String → σ → Except Fault α
  | [], _, s =>
    match ending with
    | .broken => .error .malformed
    | .closed clean => shape.close .missingField clean s
  | e :: rest, seen, s => do
    let key ← e.key
    match shape.slots.find? (·.name == key) with
    | none => .error (.unknownField key)
    | some slot =>
      if seen.contains key then .error (.duplicateField key)
      else
        let s ← slot.read e.value s
        readEntries ending rest (key :: seen) s

/-- Reads a list as the fields in their order. Trailing optional fields may be left out; an
element too many is malformed. -/
def readElements (ending : Ending) : List (Slot σ) → List Node → σ → Except Fault α
  | _, [], s =>
    match ending with
    | .broken => .error .malformed
    | .closed clean => shape.close (fun _ ↦ .wrongLength) clean s
  | [], _ :: _, _ => .error .malformed
  | slot :: slots, n :: rest, s => do
    let s ← slot.read n s
    readElements ending slots rest s

/-- Reads a document as a record. -/
def read : Outline → Except Fault α
  | .record entries ending => shape.readEntries ending entries [] shape.start
  | .list elements ending => shape.readElements ending shape.slots elements shape.start
  | .blank _ clean => shape.readEntries (.closed clean) [] [] shape.start
  | .single value _ => .error value.noRecord
  | .broken => .error .malformed

end Shape

end Fitout
