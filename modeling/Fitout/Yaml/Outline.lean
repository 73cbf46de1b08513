import Fitout.Document.Outline
import Fitout.Yaml.Core
import Fitout.Yaml.Document

/-!
# Outlines of YAML documents

What the nodes of a document are to fields. A scalar is a text however it is written. A number is
a plain scalar that spells one. An optional value is absent where a plain scalar spells nothing.

Tags matter in two places. A scalar whose tag names a kind of value must spell one where that kind
is looked for, and a scalar with a tag is never absent, unless the tag says so.
-/

namespace Fitout.Yaml

/-- The tags of the values that plain scalars spell. -/
def coreTag (name : String) : TagBytes :=
  asciiBytes ("tag:yaml.org,2002:".toList ++ name.toList)

/-- Why a scalar is not what is looked for: a scalar whose tag names a kind of value should spell
one. -/
def scalarFault (tag : Option TagBytes) (text : List Char) : Fault :=
  let fits :=
    if tag = some (coreTag "bool") then isBool text
    else if tag = some (coreTag "int") then isInteger text
    else if tag = some (coreTag "float") then isFloat text
    else if tag = some (coreTag "null") then isNull text
    else true
  if fits then .wrongType else .wrongValue

/-- Whether a scalar may spell a number. -/
def spellsNumber (tag : Option TagBytes) (style : Style) : Bool :=
  style == .plain || (style == .literal && tag == some (coreTag "int"))

/-- A scalar as a 32-bit number. -/
def scalarNumber (tag : Option TagBytes) (style : Style) (text : List Char) :
    Except Fault UInt32 :=
  match (if spellsNumber tag style then unsigned? text else none) with
  | some n =>
    if n < Nat.pow 2 64 then
      match Decimal.fitWord n with
      | some w => .ok w
      | none => .error .wrongValue
    else .error (scalarFault tag text)
  | none => .error (scalarFault tag text)

/-- Whether a scalar spells nothing. -/
def scalarAbsent (tag : Option TagBytes) (style : Style) (text : List Char) :
    Except Fault Bool :=
  if style != .plain then .ok false
  else if tag.isNone then .ok (text.isEmpty || isNull text)
  else if tag = some (coreTag "null") then
    if isNull text then .ok true else .error .wrongValue
  else .ok false

/-- A node as a value of a document. -/
def Node.value : Node → Fitout.Node
  | scalar tag style text =>
    { number := scalarNumber tag style text
      text := .ok (String.ofList text)
      absent := scalarAbsent tag style text
      noRecord := scalarFault tag text }
  | sequence _ | mapping _ | reference _ => Fitout.Node.other

/-- A key and a value as an entry of a record. -/
def entry (pair : Node × Option Node) : Entry where
  key := pair.1.value.text
  value := (pair.2.map Node.value).getD .malformed

/-- The outline of what a stream holds. -/
def Root.outline : Root → Outline
  | nothing => .blank .malformed true
  | scalar tag style text clean =>
    if text.isEmpty && style == .plain then .blank (Node.scalar tag style text).value clean
    else .single (Node.scalar tag style text).value clean
  | sequence _ => .single .other true
  | mapping _ pairs ended =>
    .record (pairs.map entry)
      (match ended with
        | some clean => .closed clean
        | none => .broken)
  | broken => .broken

/-- The outline of a document. -/
def outline (s : String) : Outline :=
  (Root.ofText s).outline

/-! ### Names of variants -/

/-- The name of a variant that a tag gives: what follows its exclamation mark, or the mark itself
if nothing does. It has to be text in UTF-8. -/
def tagVariant? : Option TagBytes → Option String
  | some (mark :: name) =>
    if [mark] = asciiBytes ['!'] then
      String.fromUTF8? ⟨(if name.isEmpty then [mark] else name).toArray⟩
    else none
  | _ => none

/-- Reads a document that names a variant: by a tag on nothing, or by the text of a scalar.
`check` decides about the name as soon as it is read. -/
def readVariant {α : Type} (check : String → Except Fault α) (s : String) : Except Fault α :=
  match Root.ofText s with
  | .nothing | .broken => .error .malformed
  | .scalar tag style text clean =>
    match tagVariant? tag with
    | some name => do
      let a ← check name
      if style == .plain && (text.isEmpty || isNull text) then Fault.unlessClean clean a
      else .error .wrongValue
    | none => do
      let a ← check (String.ofList text)
      Fault.unlessClean clean a
  | .sequence tag | .mapping tag _ _ =>
    match tagVariant? tag with
    | some name => do
      let _ ← check name
      .error .wrongType
    | none => .error .wrongType

end Fitout.Yaml
