import Fitout.Error

/-!
# Failures of a run

Why a command did not do its work, and the exit code that tells it: 1 for a refused value, 4 for
arguments that make no sense (an unknown field or format among them), 5 for files, 7 for documents.
-/

namespace Fitout

/-- What is wrong with the arguments of a command. -/
inductive Misuse
  /-- An assignment without an equals sign. -/
  | noEquals (raw : String)
  /-- An assignment without the name of a field. -/
  | noField (raw : String)
  /-- A path that denotes nothing. -/
  | noFile (path : Path)
  /-- A fault given in words. -/
  | described (text : String)
  deriving DecidableEq, Repr

/-- The fault in words. -/
def Misuse.message : Misuse → String
  | noEquals raw => "expected FIELD=VALUE, got '" ++ raw ++ "'"
  | noField raw => "missing field name in '" ++ raw ++ "'"
  | noFile path => "File not found: " ++ path.shown
  | described text => text

/-- Why a command failed. -/
inductive Failure
  /-- An operation on configurations failed. -/
  | operation (e : Error)
  /-- The arguments are at fault. -/
  | arguments (m : Misuse)
  /-- A file is at fault. -/
  | file (e : FileError)
  /-- The command found what it looked for, and it is bad. -/
  | verdict (text : String)
  deriving DecidableEq, Repr

/-- The exit code for an error. -/
def Error.exitCode : Error → Nat
  | rejected _ => 1
  | unknownField _ | unsupported _ => 4
  | file _ => 5
  | document _ _ => 7

namespace Failure

/-- The exit code for a failure. -/
def exitCode : Failure → Nat
  | operation e => e.exitCode
  | arguments _ => 4
  | file _ => 5
  | verdict _ => 1

/-- The failure in words. -/
def message : Failure → String
  | operation e => e.message
  | arguments m => "Invalid arguments: " ++ m.message
  | file e => "I/O error: " ++ e.message
  | verdict text => text

/-- The error behind a failure, in words. -/
def cause? : Failure → Option String
  | operation e => some e.message
  | file e => some e.message
  | arguments _ | verdict _ => none

end Failure

end Fitout
