import Fitout.Yaml.Lexer

/-!
# Nodes from tokens

A node starts with its properties, an anchor and a tag, then shows its kind with one token. Of a
node with parts only the start is read here; what may come inside is noted as stages, which
`Fitout.Yaml.Part` goes through.

An alias stands for a node that an anchor named before it. Anchors are numbered by the names that
came before, and an alias refers to the node that took its number last, be it after the alias.
-/

namespace Fitout.Yaml

/-- A node of a document. -/
inductive Node
  /-- A scalar with its tag, if it has one. -/
  | scalar (tag : Option TagBytes) (style : Style) (text : List Char)
  /-- A list with its tag, if it has one. -/
  | sequence (tag : Option TagBytes)
  /-- A mapping with its tag, if it has one. -/
  | mapping (tag : Option TagBytes)
  /-- Another node, by its number. -/
  | reference (number : Nat)
  deriving DecidableEq, Repr

namespace Node

/-- The node where nothing is written. -/
def empty : Node :=
  scalar none .plain []

/-- Whether a node has parts. -/
def isComposite : Node → Bool
  | sequence _ | mapping _ => true
  | scalar _ _ _ | reference _ => false

end Node

/-! ### Anchors -/

/-- The anchors of a document so far. -/
structure Anchors where
  /-- How many names there are. -/
  count : Nat := 0
  /-- The number of each name, the latest first. -/
  numbers : List (List Char × Nat) := []
  /-- The node of each number, the latest first. -/
  nodes : List (Nat × Node) := []

namespace Anchors

/-- Gives a node a name. A name that is known already is not counted again. -/
def add (a : Anchors) (name : List Char) (n : Node) : Anchors where
  count := if (a.numbers.lookup name).isSome then a.count else a.count + 1
  numbers := (name, a.count) :: a.numbers
  nodes := (a.count, n) :: a.nodes

/-- The node that a node stands for. -/
def resolve (a : Anchors) : Node → Node
  | .reference number => (a.nodes.lookup number).getD Node.empty
  | n => n

end Anchors

/-! ### One node -/

/-- What directives and defaults make of handles. -/
abbrev Handles :=
  List (List Char × TagBytes)

/-- The handles that need no directive. -/
def defaultHandles : Handles :=
  [(['!'], asciiBytes ['!']), ("!!".toList, asciiBytes "tag:yaml.org,2002:".toList)]

/-- The tag that a reference means; nothing if its handle is not known. -/
def TagRef.resolve (handles : Handles) (t : TagRef) : Option TagBytes :=
  if t.handle.isEmpty then some (cutTag t.suffix)
  else (handles.lookup t.handle).map fun stem ↦ cutTag stem ++ cutTag t.suffix

/-- A reader of a document: its tokens, its handles and its anchors so far. -/
structure Reader where
  /-- The tokens to come. -/
  lexer : Lexer
  /-- The handles in force. -/
  handles : Handles := defaultHandles
  /-- The anchors so far. -/
  anchors : Anchors := {}

/-- What may come next inside a document. -/
inductive Stage
  /-- The node of the document. -/
  | node
  /-- An entry of a list with hyphens, or its end. -/
  | blockItem
  /-- An entry of a list with hyphens that are not indented, or its end. -/
  | flatItem
  /-- A key of a mapping on lines of its own, or its end. -/
  | blockKey
  /-- The value of such a key. -/
  | blockValue
  /-- An element of a list in brackets, or its end. -/
  | flowItem (first : Bool)
  /-- The key of a single pair in brackets. -/
  | pairKey
  /-- The value of such a key. -/
  | pairValue
  /-- The end of such a pair. -/
  | pairEnd
  /-- A key of a mapping in braces, or its end. -/
  | flowKey (first : Bool)
  /-- The value of such a key. -/
  | flowValue
  /-- The value of a key in braces that has no indicator in front, and so no value. -/
  | flowNoValue
  deriving DecidableEq, Repr

namespace Reader

/-- The next token. -/
def peek (r : Reader) : Option (Token × Reader) := do
  let (t, l) ← r.lexer.peek
  return (t, { r with lexer := l })

/-- Takes the next token off. -/
def skip (r : Reader) : Reader :=
  { r with lexer := r.lexer.skip }

/-- The anchor and the tag in front of a node. -/
structure Properties where
  /-- The anchor's name. -/
  anchor : Option (List Char) := none
  /-- The tag. -/
  tag : Option TagRef := none

/-- Reads the anchor and the tag in front of a node, in either order. -/
def properties (r : Reader) : Option (Properties × Reader) := do
  let (t, r) ← r.peek
  match t with
  | .anchor name =>
    let (t, r) ← r.skip.peek
    match t with
    | .tag tag => return ({ anchor := name, tag := some tag }, r.skip)
    | _ => return ({ anchor := name }, r)
  | .tag tag =>
    let (t, r) ← r.skip.peek
    match t with
    | .anchor name => return ({ anchor := name, tag := some tag }, r.skip)
    | _ => return ({ tag := some tag }, r)
  | _ => return ({}, r)

/-- The node that starts with a token, whether it takes the token up, and the stages inside it.
`block` allows blocks, `entries` a list at the indentation of the key. -/
def nodeOf (block entries : Bool) (tag : Option TagBytes) :
    Token → Option (Node × Bool × List Stage)
  | .scalar style text => some (.scalar tag style text, true, [])
  | .flowSequenceStart => some (.sequence tag, true, [.flowItem true])
  | .flowMappingStart => some (.mapping tag, true, [.flowKey true])
  | .blockSequenceStart => if block then some (.sequence tag, true, [.blockItem]) else none
  | .blockMappingStart => if block then some (.mapping tag, true, [.blockKey]) else none
  | .blockEntry => if entries then some (.sequence tag, false, [.flatItem]) else none
  | _ => none

/-- Reads a node; of a node with parts the start, with the stages inside it. After properties the
node itself may be left out. -/
def node (block entries : Bool) (r : Reader) : Option (Node × List Stage × Reader) := do
  let (t, r) ← r.peek
  match t with
  | .reference name =>
    let number ← r.anchors.numbers.lookup name
    return (.reference number, [], r.skip)
  | _ =>
    let (p, r) ← r.properties
    let (t, r) ← r.peek
    let tag ←
      match p.tag with
      | some t => (t.resolve r.handles).map some
      | none => some none
    let (n, inside, r) ←
      match nodeOf block entries tag t with
      | some (n, taken, inside) => some (n, inside, if taken then r.skip else r)
      | none =>
        if p.anchor.isSome || p.tag.isSome then some (.scalar tag .plain [], [], r)
        else none
    match p.anchor with
    | some name => return (n, inside, { r with anchors := r.anchors.add name n })
    | none => return (n, inside, r)

end Reader

end Fitout.Yaml
