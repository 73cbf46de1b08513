/-!
# Rejected values

Why a value is refused for a field, and the wording of each reason.
-/

namespace Fitout

/-- Why a value was refused. -/
inductive Cause
  /-- The text is not the decimal form of a 32-bit number; the text is kept untrimmed. -/
  | notPositive (text : String)
  /-- The identifier is below one. -/
  | belowMinimum (value : UInt32)
  /-- Nothing is left of the brand after trimming. -/
  | blankBrand
  /-- The brand has a control character. -/
  | controlInBrand
  /-- The brand has more than 64 characters. -/
  | longBrand
  /-- The text names no member of the enumeration. -/
  | unknownMember (text : String) (members : List String)
  /-- A mandatory field cannot be cleared. -/
  | mandatory
  /-- The text is not the decimal form of a 32-bit number, zero included. -/
  | notNatural (text : String)
  /-- A reason given in words. -/
  | stated (reason : String)
  deriving DecidableEq, Repr

/-- The reason in words. -/
def Cause.message : Cause → String
  | notPositive text => "not a positive integer: " ++ text
  | belowMinimum value => s!"must be at least 1, got {value.toNat}"
  | blankBrand => "cannot be empty or only whitespace"
  | controlInBrand => "cannot contain control characters"
  | longBrand => "cannot exceed 64 characters"
  | unknownMember text members =>
    "unknown value '" ++ text ++ "', expected one of: " ++ ", ".intercalate members
  | mandatory => "mandatory field cannot be unset"
  | notNatural text => "not a non-negative integer: " ++ text
  | stated reason => reason

/-- A value refused for the field of the given name. -/
structure Rejection where
  /-- The name under which the field was addressed. -/
  field : String
  /-- Why the value was refused. -/
  cause : Cause
  deriving DecidableEq, Repr

/-- The rejection in words, as said of a single value. -/
def Rejection.message (r : Rejection) : String :=
  "invalid value for '" ++ r.field ++ "': " ++ r.cause.message

end Fitout
