import Fitout.Text.Bytes

/-!
# Paths

A path is a run of bytes whose components are parted by slashes; the bytes need not be text. The
rules here are those of names: which component is the file name, and what its extension is. Repeated
slashes and components `.` do not count, so a trailing `/` or `/.` is disregarded.
-/

namespace Fitout

/-- A path, kept as it was written. -/
structure Path where
  /-- The bytes of the path. -/
  bytes : List UInt8
  deriving DecidableEq, Repr

namespace Path

/-- The path that a text writes. -/
def ofText (s : String) : Path :=
  ⟨Text.bytes s⟩

/-- A path as it is shown. -/
def shown (p : Path) : String :=
  Text.shown p.bytes

@[simp]
theorem shown_ofText (s : String) : (ofText s).shown = s :=
  Text.shown_bytes s

/-- What stands between two slashes of a path. -/
abbrev Component :=
  List UInt8

/-- The byte that parts components. -/
def slash : UInt8 :=
  0x2F

/-- The byte in front of an extension. -/
def dot : UInt8 :=
  0x2E

/-- The component that leads to the directory itself. -/
def current : Component :=
  [dot]

/-- The component that leads to the directory above. -/
def parent : Component :=
  [dot, dot]

/-- The pieces of a path between slashes, empty ones included. -/
def pieces : List UInt8 → List Component
  | [] => [[]]
  | b :: bs =>
    if b = slash then [] :: pieces bs
    else
      match pieces bs with
      | [] => [[b]]
      | p :: ps => (b :: p) :: ps

/-- The components of a path: its pieces that are neither empty nor `.`. -/
def components (p : Path) : List Component :=
  (pieces p.bytes).filter fun c ↦ !(c == [] || c == current)

/-- The last component, unless it leads to the parent directory. -/
def fileName? (p : Path) : Option Component :=
  match p.components.getLast? with
  | some name => if name = parent then none else some name
  | none => none

/-- What follows the last dot of a file name; none when there is no dot but the first byte. -/
def extensionOf? (name : Component) : Option (List UInt8) :=
  match name.reverse.dropWhile (· != dot) with
  | [] => none
  | _ :: before =>
    if before.isEmpty then none
    else some (name.reverse.takeWhile (· != dot)).reverse

/-- The extension of the file name. -/
def extension? (p : Path) : Option (List UInt8) :=
  p.fileName?.bind extensionOf?

/-- Whether the path starts at the root of the file system. -/
def isAbsolute (p : Path) : Bool :=
  p.bytes.head? == some slash

/-- The greatest length of a component in bytes. -/
def maxNameSize : Nat :=
  255

/-- The greatest length of a path in bytes. -/
def maxSize : Nat :=
  4095

/-- Whether a component is too long to be a name. -/
def isOverlong (c : Component) : Bool :=
  maxNameSize < c.length

/-- Whether the path ends in a slash. -/
def endsInSlash (p : Path) : Bool :=
  p.bytes.getLast? == some slash

/-- Whether the way the path is written asks for a directory: it ends in `/`, `.` or `..`. -/
def asksDirectory (p : Path) : Bool :=
  match (pieces p.bytes).getLast? with
  | some last => last == [] || last == current || last == parent
  | none => false

end Path

end Fitout
