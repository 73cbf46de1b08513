/-!
# The environment of a run

The variables that a run sees, each with a text value. A variable whose bytes are not text is the
same as one that is not set.
-/

namespace Fitout

/-- The variables of a run, as pairs of name and value. -/
structure Environment where
  /-- The variables; of two with one name the first counts. -/
  bindings : List (String × String) := []

namespace Environment

/-- The value of a variable, if it is set. Names are told apart by case. -/
def get? (env : Environment) (name : String) : Option String :=
  env.bindings.lookup name

/-- The environment of raw values. Values that are not UTF-8 are left out. -/
def ofBytes (raw : List (String × ByteArray)) : Environment where
  bindings := raw.filterMap fun v ↦ (String.fromUTF8? v.2).map (v.1, ·)

end Environment

end Fitout
