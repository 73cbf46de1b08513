import Fitout.Json.Number
import Fitout.Json.Text

/-!
# Outlines of JSON documents

Reading stops at the first fault and at a list or an object inside a record, since no field has
such a value. An outline therefore goes one level deep, and the functions here need no recursion
into values.
-/

namespace Fitout.Json

/-- The characters that may stand between the parts of a document. -/
def isBlank (c : Char) : Bool :=
  c == ' ' || c == '\t' || c == '\n' || c == '\r'

/-- Passes over blanks. -/
def skipBlanks (cs : List Char) : List Char :=
  cs.dropWhile isBlank

/-- Whether only blanks are left. -/
def isOver (cs : List Char) : Bool :=
  (skipBlanks cs).isEmpty

/-- A string as a value of a document. -/
def textNode (s : List Char) : Node :=
  { Node.other with text := .ok (String.ofList s) }

/-- The value `null`. -/
def nullNode : Node :=
  { Node.other with absent := .ok true }

/-- What stands where a value is expected. -/
inductive Found
  /-- A value without parts, and the rest of the text. -/
  | value (n : Node) (rest : List Char)
  /-- The start of a list or an object. -/
  | composite
  /-- Nothing that could be a value. -/
  | malformed

/-- A value written as a word. -/
def Found.word (n : Node) (letters : List Char) (cs : List Char) : Found :=
  if letters.isPrefixOf cs then .value n (cs.drop letters.length) else .malformed

/-- Reads a value. -/
def readValue (cs : List Char) : Found :=
  match skipBlanks cs with
  | [] => .malformed
  | c :: rest =>
    if c == '\x22' then
      match readString rest with
      | some (s, rest) => .value (textNode s) rest
      | none => .malformed
    else if c == '-' || c.isDigit then
      match readNumeral (c :: rest) with
      | some (m, rest) =>
        match m.number? with
        | some n => .value n.node rest
        | none => .malformed
      | none => .malformed
    else if c == 'n' then .word nullNode "ull".toList rest
    else if c == 't' then .word Node.other "rue".toList rest
    else if c == 'f' then .word Node.other "alse".toList rest
    else if c == '\x5b' || c == '\x7b' then .composite
    else .malformed

/-- Reads the value of an entry, after its key. -/
def readMember (cs : List Char) : Found :=
  match skipBlanks cs with
  | ':' :: rest => readValue rest
  | _ => .malformed

/-- Reads the entries of an object from its first key on. Every entry takes up characters, so the
length of the text bounds their number. -/
def readEntries : Nat → List Char → List Entry × Ending
  | 0, _ => ([], .broken)
  | bound + 1, cs =>
    match skipBlanks cs with
    | '\x22' :: rest =>
      match readString rest with
      | none => ([], .broken)
      | some (key, rest) =>
        let key : Except Fault String := .ok (String.ofList key)
        match readMember rest with
        | .malformed => ([⟨key, Node.malformed⟩], .broken)
        | .composite => ([⟨key, Node.other⟩], .broken)
        | .value n rest =>
          match skipBlanks rest with
          | ',' :: rest =>
            let (entries, ending) := readEntries bound rest
            (⟨key, n⟩ :: entries, ending)
          | '\x7d' :: rest => ([⟨key, n⟩], .closed (isOver rest))
          | _ => ([⟨key, n⟩], .broken)
    | _ => ([], .broken)

/-- Reads the elements of a list from the first one on. -/
def readElements : Nat → List Char → List Node × Ending
  | 0, _ => ([], .broken)
  | bound + 1, cs =>
    match readValue cs with
    | .malformed => ([Node.malformed], .broken)
    | .composite => ([Node.other], .broken)
    | .value n rest =>
      match skipBlanks rest with
      | ',' :: rest =>
        let (elements, ending) := readElements bound rest
        (n :: elements, ending)
      | '\x5d' :: rest => ([n], .closed (isOver rest))
      | _ => ([n], .broken)

/-- Reads an object after its opening brace. -/
def readObject (cs : List Char) : Outline :=
  match skipBlanks cs with
  | '\x7d' :: rest => .record [] (.closed (isOver rest))
  | _ =>
    let (entries, ending) := readEntries cs.length cs
    .record entries ending

/-- Reads a list after its opening bracket. -/
def readList (cs : List Char) : Outline :=
  match skipBlanks cs with
  | '\x5d' :: rest => .list [] (.closed (isOver rest))
  | _ =>
    let (elements, ending) := readElements cs.length cs
    .list elements ending

/-- The outline of a document. -/
def outline (s : String) : Outline :=
  match skipBlanks s.toList with
  | '\x7b' :: rest => readObject rest
  | '\x5b' :: rest => readList rest
  | cs =>
    match readValue cs with
    | .value n rest => .single n (isOver rest)
    | .composite | .malformed => .broken

/-! ### Names of variants -/

/-- Reads what follows the name of a variant inside an object: the value `null` and the end of the
object. -/
def closesVariant (cs : List Char) : Except Fault Bool :=
  match readMember cs with
  | .malformed => .error .malformed
  | .composite => .error .wrongType
  | .value n rest => do
    if !(← n.absent) then .error .wrongType
    else
      match skipBlanks rest with
      | '\x7d' :: rest => .ok (isOver rest)
      | _ => .error .malformed

/-- Reads a document that names a variant: a string, or an object whose only key is the name and
whose value is `null`. `check` decides about the name as soon as it is read. -/
def readVariant {α : Type} (check : String → Except Fault α) (s : String) : Except Fault α :=
  match skipBlanks s.toList with
  | '\x22' :: rest =>
    match readString rest with
    | none => .error .malformed
    | some (name, rest) => do
      let a ← check (String.ofList name)
      Fault.unlessClean (isOver rest) a
  | '\x7b' :: rest =>
    match skipBlanks rest with
    | '\x22' :: rest =>
      match readString rest with
      | none => .error .malformed
      | some (name, rest) => do
        let a ← check (String.ofList name)
        Fault.unlessClean (← closesVariant rest) a
    | _ => .error .malformed
  | _ => .error .malformed

end Fitout.Json
