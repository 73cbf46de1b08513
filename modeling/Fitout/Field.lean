import Fitout.Text.Blank

/-!
# Fields of a car configuration

The six fields, their names in documents, and how a written name finds its field: blanks around
it and the case of ASCII letters do not matter.
-/

namespace Fitout

/-- A field of a car configuration. -/
inductive Field
  | id
  | brand
  | engine
  | camera
  | smartphone
  | adas
  deriving DecidableEq, Repr

namespace Field

/-- Every field in declaration order, the mandatory ones first. -/
def all : List Field :=
  [id, brand, engine, camera, smartphone, adas]

theorem mem_all (f : Field) : f ∈ all := by
  cases f <;> decide

/-- The name of a field in documents. -/
def name : Field → String
  | id => "id"
  | brand => "brand"
  | engine => "engine"
  | camera => "camera"
  | smartphone => "smartphone"
  | adas => "adas"

/-- Whether a field can never be absent. -/
def isMandatory : Field → Bool
  | id | brand | engine => true
  | camera | smartphone | adas => false

/-- What every override variable starts with. -/
def variableStem : String :=
  "CARCONF_"

/-- The environment variable that overrides a field. -/
def variableName (f : Field) : String :=
  variableStem ++ String.ofList (f.name.toList.map Char.toUpper)

/-- The field that a text denotes: its name in any case of ASCII letters, with blanks around. -/
def ofName? (s : String) : Option Field :=
  all.find? fun f ↦ f.name.toList == (Text.trimChars s.toList).map Char.toLower

theorem ofName?_name (f : Field) : ofName? f.name = some f := by
  cases f <;> decide

end Field

end Fitout
