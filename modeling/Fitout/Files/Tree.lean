import Fitout.Error

/-!
# Trees of files

A tree is the file system of a run: the directories and files from the root down, the links between
them, and the directory that the run works in, where relative paths start. A path leads to a place
if every component on the way to the last one leads to a directory, links being followed, and if
neither the path nor one of its components is too long.

Every place may refuse to be accessed, for a reason of its own. No two places share a file.
-/

namespace Fitout

/-- What stands at a place of a tree. -/
inductive FileEntry
  | directory
  | file (content : ByteArray)

/-- A place in the file system: the names on the way down from the root. -/
structure Place where
  /-- The names on the way down. -/
  names : List Path.Component := []
  deriving DecidableEq, Repr

namespace Place

/-- The place of a name in a directory, or the one above the directory. -/
def enter (p : Place) (c : Path.Component) : Place :=
  if c = Path.parent then ⟨p.names.dropLast⟩ else ⟨p.names ++ [c]⟩

/-- The place that a text leads to from the root, if there are no links. -/
def ofText (s : String) : Place :=
  (Path.ofText s).components.foldl enter {}

/-- The place where the components of a path start, if it is followed in a directory. -/
def start (p : Place) (path : Path) : Place :=
  if path.isAbsolute then {} else p

end Place

/-- What may be done at a place. -/
inductive Access
  /-- To go on from a directory to the names in it. -/
  | pass
  /-- To read a file. -/
  | read
  /-- To write a file, or to make one. -/
  | write
  deriving DecidableEq, Repr

/-- The file system of a run. -/
structure Tree where
  /-- The directory that the run works in. -/
  home : Place := {}
  /-- The directories and files; the root is always a directory. -/
  entries : List (Place × FileEntry) := []
  /-- The links, each with the path that it stands for. -/
  links : List (Place × Path) := []
  /-- Why an access to a place is refused, if it is. -/
  refusal : Access → Place → Option FileError := fun _ _ ↦ none

namespace Tree

/-- What stands at a place. -/
def entry? (t : Tree) (p : Place) : Option FileEntry :=
  if p.names = [] then some .directory else t.entries.lookup p

/-- What is gained by an access to a place, unless the access is refused. -/
def permit {α : Type} (t : Tree) (a : Access) (p : Place) (gain : α) : Except FileError α :=
  match t.refusal a p with
  | some e => .error e
  | none => .ok gain

/-! ### Where paths lead -/

/-- The place to which a component leads from another. -/
def next (t : Tree) (p : Place) (c : Path.Component) : Except FileError Place := do
  match t.entry? p with
  | none => .error .notFound
  | some (.file _) => .error .notDirectory
  | some .directory =>
    let q ← t.permit .pass p (p.enter c)
    if Path.isOverlong c then .error .nameTooLong else .ok q

/-- Follows components from a place up to the first link, where a jump takes over with the path of
the link and the components behind it. -/
def walk (t : Tree) (jump : Place → List Path.Component → Except FileError Place) :
    Place → List Path.Component → Except FileError Place
  | p, [] => .ok p
  | p, c :: cs => do
    let q ← t.next p c
    match t.links.lookup q with
    | some target => jump (p.start target) (target.components ++ cs)
    | none => walk t jump q cs

/-- Follows components from a place, over a number of links at most. -/
def follow (t : Tree) : Nat → Place → List Path.Component → Except FileError Place
  | 0 => t.walk fun _ _ ↦ .error .tooManyLinks
  | links + 1 => t.walk (follow t links)

/-- How many links a path may lead over. -/
def maxLinks : Nat :=
  40

/-- The place that a path leads to, whether or not something stands there. -/
def locate (t : Tree) (path : Path) : Except FileError Place :=
  if path.bytes.contains 0 then .error .invalidPath
  else if path.bytes.isEmpty then .error .notFound
  else if Path.maxSize < path.bytes.length then .error .nameTooLong
  else t.follow maxLinks (t.home.start path) path.components

/-! ### Reading and writing -/

/-- What a path denotes, and where. A path that asks for a directory denotes no file. -/
def find (t : Tree) (path : Path) : Except FileError (Place × FileEntry) := do
  let p ← t.locate path
  match t.entry? p with
  | none => .error .notFound
  | some .directory => .ok (p, .directory)
  | some (.file content) =>
    if path.asksDirectory then .error .notDirectory else .ok (p, .file content)

/-- Whether a path denotes something. -/
def holds (t : Tree) (path : Path) : Bool :=
  (t.find path).isOk

/-- The content of the file that a path denotes. -/
def read (t : Tree) (path : Path) : Except FileError ByteArray := do
  match ← t.find path with
  | (_, .directory) => .error .isDirectory
  | (p, .file content) => t.permit .read p content

/-- The place of the file that a write to a path makes or replaces. A path that ends in a slash
names a directory, whatever stands there. -/
def destination (t : Tree) (path : Path) : Except FileError Place := do
  let p ← t.locate path
  if path.endsInSlash then .error .isDirectory
  else
    match t.entry? p with
    | none => if path.asksDirectory then .error .notFound else t.permit .write p p
    | some .directory => .error .isDirectory
    | some (.file _) => if path.asksDirectory then .error .notDirectory else t.permit .write p p

/-- The tree with an entry at a place, in the stead of what stands there. -/
def place (t : Tree) (p : Place) (e : FileEntry) : Tree :=
  { t with entries := (p, e) :: t.entries.filter (·.1 != p) }

/-- The tree after a write to a path. A write that fails leaves the tree as it is. -/
def write (t : Tree) (path : Path) (content : ByteArray) : Except FileError Tree := do
  return t.place (← t.destination path) (.file content)

/-! ### Making trees -/

/-- The tree with an entry at a place and with the directories on the way to it. -/
def put (t : Tree) (p : Place) (e : FileEntry) : Tree :=
  let above := (List.range p.names.length).map fun n ↦ Place.mk (p.names.take n)
  let t := above.foldl (fun t q ↦ if (t.entry? q).isSome then t else t.place q .directory) t
  t.place p e

/-- The files below a place, each with the names on the way down from it. -/
def filesBelow (t : Tree) (p : Place) : List (List Path.Component × ByteArray) :=
  t.entries.filterMap fun
    | (q, .file content) =>
      if p.names.isPrefixOf q.names then some (q.names.drop p.names.length, content) else none
    | (_, .directory) => none

end Tree

end Fitout
