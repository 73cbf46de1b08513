import Fitout.Rejection

/-!
# Faults of documents

Why a document cannot be read. A malformed document breaks the rules of its format; every other
fault is found in text that is well formed so far but has the wrong shape.
-/

namespace Fitout

/-- Why a document cannot be read. -/
inductive Fault
  /-- The text breaks the rules of the format. -/
  | malformed
  /-- A mandatory field is not there. -/
  | missingField (name : String)
  /-- A key is not the name of a field. -/
  | unknownField (name : String)
  /-- A key stands twice. -/
  | duplicateField (name : String)
  /-- A name is not one of the expected ones. -/
  | unknownVariant (name : String)
  /-- A value of another kind was expected. -/
  | wrongType
  /-- A value of the right kind is out of range. -/
  | wrongValue
  /-- A list ends before its mandatory fields. -/
  | wrongLength
  /-- A value is refused for its field. -/
  | rejected (r : Rejection)
  deriving DecidableEq, Repr

namespace Fault

/-- The fault in words, for one that concerns the shape of the document. -/
def detail? : Fault → Option String
  | malformed => none
  | missingField name => some ("missing field \x60" ++ name ++ "\x60")
  | unknownField name => some ("unknown field \x60" ++ name ++ "\x60")
  | duplicateField name => some ("duplicate field \x60" ++ name ++ "\x60")
  | unknownVariant name => some ("unknown variant \x60" ++ name ++ "\x60")
  | wrongType => some "invalid type"
  | wrongValue => some "invalid value"
  | wrongLength => some "invalid length"
  | rejected r => some r.message

/-- The fault in words. -/
def message (f : Fault) : String :=
  f.detail?.getD "malformed document"

end Fault

end Fitout
