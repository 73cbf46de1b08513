import Fitout.Yaml.Part

/-!
# Documents of a YAML stream

A stream should hold one document: directives, a node, and nothing after it but document ends.
-/

namespace Fitout.Yaml

/-- What a stream holds. -/
inductive Root
  /-- No document. -/
  | nothing
  /-- A scalar, and whether nothing improper follows. -/
  | scalar (tag : Option TagBytes) (style : Style) (text : List Char) (clean : Bool)
  /-- A list. -/
  | sequence (tag : Option TagBytes)
  /-- A mapping: its keys and values, of which the last may be malformed, and, if it ends,
  whether nothing improper follows. -/
  | mapping (tag : Option TagBytes) (pairs : List (Node × Option Node)) (ended : Option Bool)
  /-- The text is malformed before its node starts. -/
  | broken

namespace Reader

/-- Whether only document ends follow up to the end of the stream. -/
def endsStream : Nat → Reader → Bool
  | 0, _ => false
  | bound + 1, r =>
    match r.peek with
    | some (.documentEnd, r) => endsStream bound r.skip
    | some (.streamEnd, _) => true
    | _ => false

/-- Whether nothing improper follows. -/
def isClean (r : Reader) : Bool :=
  r.endsStream r.lexer.bound

/-- Reads the directives in front of a document. A version must be 1.1 or 1.2 and stand once, and
no handle may be explained twice. -/
def directives : Nat → Bool → Handles → Reader → Option Reader
  | 0, _, _, _ => none
  | bound + 1, versioned, handles, r => do
    let (t, r) ← r.peek
    match t with
    | .versionDirective major minor =>
      if versioned || major != 1 || (minor != 1 && minor != 2) then none
      else directives bound true handles r.skip
    | .tagDirective handle stem =>
      if (handles.lookup handle).isSome then none
      else directives bound versioned ((handle, stem) :: handles) r.skip
    | _ => return { r with handles := handles ++ defaultHandles }

/-- Whether a token ends a document before its node. -/
def endsContent : Token → Bool
  | .versionDirective _ _ | .tagDirective _ _ | .documentStart | .documentEnd | .streamEnd => true
  | _ => false

end Reader

/-- The keys and values of a mapping, and whether it ends. They are given up to the first with
parts, and without the last value if the text is malformed there. -/
def pairs : List Part → List (Node × Option Node) × Bool
  | .node key :: .node value :: rest =>
    if key.isComposite || value.isComposite then ([(key, some value)], false)
    else
      let (more, ended) := pairs rest
      ((key, some value) :: more, ended)
  | [.node key] => ([(key, none)], false)
  | .node key :: .close :: _ => ([(key, none)], false)
  | .close :: _ => ([], true)
  | [] => ([], false)

/-- What the parts of a document are. -/
def Reading.root (g : Reading) : Root :=
  match g.parts with
  | .node (.scalar tag style text) :: _ => .scalar tag style text (g.ended.any (·.isClean))
  | .node (.sequence tag) :: _ => .sequence tag
  | .node (.mapping tag) :: rest =>
    let (ps, closed) := pairs rest
    .mapping tag (ps.map fun p ↦ (g.anchors.resolve p.1, p.2.map g.anchors.resolve))
      (if closed then some (g.ended.any (·.isClean)) else none)
  | .node (.reference _) :: _ | .close :: _ | [] => .broken

namespace Reader

/-- The document after its directives. -/
def explicitRoot (r : Reader) : Root :=
  match r.directives r.lexer.bound false [] with
  | none => .broken
  | some r =>
    match r.peek with
    | some (.documentStart, r) =>
      match r.skip.peek with
      | none => .broken
      | some (t, r) =>
        if endsContent t then .scalar none .plain [] r.isClean else r.reading.root
    | _ => .broken

/-- The document of a stream. -/
def streamRoot (r : Reader) : Root :=
  match r.peek with
  | none => .broken
  | some (t, r) =>
    match t with
    | .streamEnd => .nothing
    | .versionDirective _ _ | .tagDirective _ _ | .documentStart => r.explicitRoot
    | _ => r.reading.root

end Reader

/-- What a text holds. -/
def Root.ofText (s : String) : Root :=
  ({ lexer := Lexer.ofText s } : Reader).streamRoot

end Fitout.Yaml
