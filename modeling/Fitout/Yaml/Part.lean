import Fitout.Yaml.Node

/-!
# Parts of documents

A document as a sequence of parts: nodes as they start, and the ends of those that have parts
themselves. What may come next is a stack of stages; a stage reads one part and leaves the stages
that take its place. So the parts before a fault are known, with the anchors up to it, and no
nesting is too deep.
-/

namespace Fitout.Yaml

/-- A part of a document. -/
inductive Part
  /-- A node, or the start of a node with parts. -/
  | node (n : Node)
  /-- The end of a node with parts. -/
  | close
  deriving DecidableEq, Repr

/-- What a stage makes of the text: a part, the stages that take its place, and the rest. -/
structure Step where
  /-- The part. -/
  part : Part
  /-- The stages in the place of the one that is done. -/
  next : List Stage
  /-- The reader after the part. -/
  reader : Reader

/-- Whether a token ends an entry of a block mapping before its node. -/
def endsBlockNode : Token → Bool
  | .key | .value | .blockEnd => true
  | _ => false

/-- Whether a token ends an element of a list in brackets before its node. -/
def endsItem : Token → Bool
  | .flowEntry | .flowSequenceEnd => true
  | _ => false

/-- Whether a token ends an entry of a mapping in braces before its node. -/
def endsFlowNode : Token → Bool
  | .flowEntry | .flowMappingEnd => true
  | _ => false

namespace Reader

/-- Nothing is written where a node may stand. -/
def omitted (r : Reader) (next : List Stage) : Step :=
  ⟨.node .empty, next, r⟩

/-- A node with parts ends. -/
def closed (r : Reader) (next : List Stage) : Step :=
  ⟨.close, next, r⟩

/-- A node, then the stages inside it and after it. -/
def enter (block entries : Bool) (r : Reader) (next : List Stage) : Option Step := do
  let (n, inside, r) ← r.node block entries
  return ⟨.node n, inside ++ next, r⟩

/-- A node after an indicator, unless the next token ends the entry before it. -/
def enterUnless (ends : Token → Bool) (block entries : Bool) (r : Reader) (next : List Stage) :
    Option Step := do
  let (t, r) ← r.peek
  if ends t then return r.omitted next else r.enter block entries next

/-- The value of an entry, which may be left out with its indicator. -/
def value (ends : Token → Bool) (block entries : Bool) (r : Reader) (next : List Stage) :
    Option Step := do
  let (t, r) ← r.peek
  if t == .value then r.skip.enterUnless ends block entries next else return r.omitted next

/-- An entry of a list with hyphens. -/
def blockItem (r : Reader) : Option Step := do
  let (t, r) ← r.peek
  match t with
  | .blockEntry =>
    r.skip.enterUnless (fun t ↦ t == .blockEntry || t == .blockEnd) true false [.blockItem]
  | .blockEnd => return r.skip.closed []
  | _ => none

/-- An entry of a list with hyphens that are not indented. The token that ends the list belongs to
what is around it. -/
def flatItem (r : Reader) : Option Step := do
  let (t, r) ← r.peek
  match t with
  | .blockEntry =>
    r.skip.enterUnless (fun t ↦ t == .blockEntry || endsBlockNode t) true false [.flatItem]
  | _ => return r.closed []

/-- A key of a mapping on lines of its own. -/
def blockKey (r : Reader) : Option Step := do
  let (t, r) ← r.peek
  match t with
  | .key => r.skip.enterUnless endsBlockNode true true [.blockValue]
  | .blockEnd => return r.skip.closed []
  | _ => none

/-- The token of the next entry inside brackets or braces: entries after the first follow a
comma. -/
def entryToken (first : Bool) (close : Token) (r : Reader) : Option (Token × Reader) := do
  let (t, r) ← r.peek
  if first || t == close then return (t, r)
  else if t == .flowEntry then r.skip.peek
  else none

/-- An element of a list in brackets, which may be a single pair. -/
def flowItem (first : Bool) (r : Reader) : Option Step := do
  let (t, r) ← r.entryToken first .flowSequenceEnd
  match t with
  | .key => return ⟨.node (.mapping none), [.pairKey, .flowItem false], r.skip⟩
  | .flowSequenceEnd => return r.skip.closed []
  | _ => r.enter false false [.flowItem false]

/-- The key of a single pair. A token that shows there is none is passed over. -/
def pairKey (r : Reader) : Option Step := do
  let (t, r) ← r.peek
  if t == .value || endsItem t then return r.skip.omitted [.pairValue]
  else r.enter false false [.pairValue]

/-- A key of a mapping in braces. -/
def flowKey (first : Bool) (r : Reader) : Option Step := do
  let (t, r) ← r.entryToken first .flowMappingEnd
  match t with
  | .key =>
    r.skip.enterUnless (fun t ↦ t == .value || endsFlowNode t) false false [.flowValue]
  | .flowMappingEnd => return r.skip.closed []
  | _ => r.enter false false [.flowNoValue]

/-- What a stage makes of the text. -/
def step (r : Reader) : Stage → Option Step
  | .node => r.enter true false []
  | .blockItem => r.blockItem
  | .flatItem => r.flatItem
  | .blockKey => r.blockKey
  | .blockValue => r.value endsBlockNode true true [.blockKey]
  | .flowItem first => r.flowItem first
  | .pairKey => r.pairKey
  | .pairValue => r.value endsItem false false [.pairEnd]
  | .pairEnd => r.peek.map fun p ↦ p.2.closed []
  | .flowKey first => r.flowKey first
  | .flowValue => r.value endsFlowNode false false [.flowKey false]
  | .flowNoValue => r.peek.map fun p ↦ p.2.omitted [.flowKey false]

end Reader

/-! ### All parts -/

/-- The parts of a document up to its end or the first fault. -/
structure Reading where
  /-- The parts. -/
  parts : List Part
  /-- The anchors of these parts. -/
  anchors : Anchors
  /-- What follows the document, if its end is reached. -/
  ended : Option Reader

/-- A reading with one more part in front. -/
def Reading.cons (p : Part) (g : Reading) : Reading :=
  { g with parts := p :: g.parts }

namespace Reader

/-- Goes through stages until none is left. -/
def run : Nat → List Stage → Reader → Reading
  | 0, _, r => ⟨[], r.anchors, none⟩
  | _, [], r => ⟨[], r.anchors, some r⟩
  | bound + 1, stage :: stages, r =>
    match r.step stage with
    | none => ⟨[], r.anchors, none⟩
    | some s => (run bound (s.next ++ stages) s.reader).cons s.part

/-- A bound on the number of parts: a character makes a few tokens at most, and a token a few
parts. -/
def bound (r : Reader) : Nat :=
  32 * r.lexer.bound

/-- The parts of the document that starts here. -/
def reading (r : Reader) : Reading :=
  r.run r.bound [.node]

end Reader

end Fitout.Yaml
