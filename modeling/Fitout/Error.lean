import Fitout.Document.Fault
import Fitout.Document.Format

/-!
# Errors

What can go wrong with a configuration: a value is refused, a name is not that of a field, the
format of a file is not known, a file cannot be read or written, or a document cannot be read.
Each constructor is a cause; `Error.message` has the wording.
-/

namespace Fitout

/-- Why a file cannot be read or written. -/
inductive FileError
  | notFound
  | isDirectory
  | notDirectory
  /-- A name, or the path as a whole, is too long. -/
  | nameTooLong
  /-- The path holds the byte NUL. -/
  | invalidPath
  /-- The path leads over too many links. -/
  | tooManyLinks
  /-- The access is not permitted. -/
  | denied
  /-- The content is not text in UTF-8. -/
  | invalidData
  /-- A failure described by the system. -/
  | described (text : String)
  deriving DecidableEq, Repr

/-- The failure in words. -/
def FileError.message : FileError → String
  | notFound => "no such file or directory"
  | isDirectory => "is a directory"
  | notDirectory => "not a directory"
  | nameTooLong => "file name too long"
  | invalidPath => "the path holds a NUL byte"
  | tooManyLinks => "too many levels of symbolic links"
  | denied => "permission denied"
  | invalidData => "the content is not valid UTF-8"
  | described text => text

/-- Why an operation on configurations failed. -/
inductive Error
  /-- A value was refused. -/
  | rejected (r : Rejection)
  /-- A name is not the name of a field. -/
  | unknownField (name : String)
  /-- The extension of a file does not name a format. -/
  | unsupported (path : Path)
  /-- A file cannot be read or written. -/
  | file (e : FileError)
  /-- A document cannot be read. -/
  | document (format : Format) (fault : Fault)
  deriving DecidableEq, Repr

namespace Error

/-- How a failure with documents of a format is introduced. -/
def documentLabel : Format → String
  | .yaml => "YAML error: "
  | .json => "JSON error: "

/-- The error in words. -/
def message : Error → String
  | rejected r => "invalid configuration for '" ++ r.field ++ "': " ++ r.cause.message
  | unknownField name => "unknown field '" ++ name ++ "'"
  | unsupported path => "unsupported configuration format: " ++ path.shown
  | file e => "I/O error: " ++ e.message
  | document format fault => documentLabel format ++ fault.message

/-- Whether a value was refused. -/
def isRejection : Error → Bool
  | rejected _ => true
  | _ => false

/-- Whether a name was not the name of a field. -/
def isUnknownField : Error → Bool
  | unknownField _ => true
  | _ => false

/-- Whether a document could not be read. -/
def isDocument : Error → Bool
  | document _ _ => true
  | _ => false

end Error

/-- The format that a path asks for; any other extension is refused. -/
def Format.ofPath (p : Path) : Except Error Format :=
  match Format.ofPath? p with
  | some f => .ok f
  | none => .error (.unsupported p)

end Fitout
