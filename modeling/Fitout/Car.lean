import Fitout.Car.Brand
import Fitout.Car.Equipment
import Fitout.Car.Id
import Fitout.Error

/-!
# Car configurations

A car has an identifier, a brand and an engine, and may state a camera, a smartphone link and a
driver assistance. Every `Car` is valid, because its parts are; so a configuration is edited field
by field without ever passing through an invalid state, and a failed edit leaves no trace.

Merging is biased to the update: mandatory fields are taken from it, optional ones where it states
them.
-/

namespace Fitout

/-- The configuration of a car. -/
structure Car where
  /-- The identifier. -/
  id : CarId
  /-- The brand. -/
  brand : Brand
  /-- The engine. -/
  engine : Engine
  /-- The camera, if stated. -/
  camera : Option Camera := none
  /-- The smartphone link, if stated. -/
  smartphone : Option Smartphone := none
  /-- The driver assistance, if stated. -/
  adas : Option Adas := none
  deriving DecidableEq, Repr

namespace Car

/-- A car of the mandatory fields alone, from raw values. The identifier is checked first. -/
def create (id : UInt32) (brand : String) (engine : Engine) : Except Rejection Car := do
  let id ← CarId.ofWord id
  let brand ← Brand.parse brand
  return { id, brand, engine }

/-! ### Fields by value -/

/-- Overwrites a field with the value that a text stands for. -/
def set (car : Car) (field : Field) (value : String) : Except Rejection Car :=
  match field with
  | .id => (CarId.parse value).map fun v ↦ { car with id := v }
  | .brand => (Brand.parse value).map fun v ↦ { car with brand := v }
  | .engine => (Member.parse value).map fun v ↦ { car with engine := v }
  | .camera => (Member.parse value).map fun v ↦ { car with camera := some v }
  | .smartphone => (Member.parse value).map fun v ↦ { car with smartphone := some v }
  | .adas => (Member.parse value).map fun v ↦ { car with adas := some v }

/-- Makes an optional field absent. -/
def unset (car : Car) (field : Field) : Except Rejection Car :=
  match field with
  | .id | .brand | .engine => .error ⟨field.name, .mandatory⟩
  | .camera => .ok { car with camera := none }
  | .smartphone => .ok { car with smartphone := none }
  | .adas => .ok { car with adas := none }

/-! ### Fields by name -/

/-- The field that a name denotes. -/
def fieldNamed (name : String) : Except Error Field :=
  match Field.ofName? name with
  | some f => .ok f
  | none => .error (.unknownField (Text.trim name))

/-- Overwrites the field of a name with the value that a text stands for. -/
def setNamed (car : Car) (name value : String) : Except Error Car := do
  let field ← fieldNamed name
  (car.set field value).mapError .rejected

/-- Makes the optional field of a name absent. -/
def unsetNamed (car : Car) (name : String) : Except Error Car := do
  let field ← fieldNamed name
  (car.unset field).mapError .rejected

/-! ### Merging -/

/-- The base with the update on top of it. -/
def merge (base update : Car) : Car where
  id := update.id
  brand := update.brand
  engine := update.engine
  camera := update.camera <|> base.camera
  smartphone := update.smartphone <|> base.smartphone
  adas := update.adas <|> base.adas

/-- The base with every update on top of it, the last one uppermost. -/
def mergeAll (base : Car) (updates : List Car) : Car :=
  updates.foldl merge base

/-! ### Display -/

/-- The name of a member, or a dash for an absent one. -/
def orDash {α : Type} [Member α] (v : Option α) : String :=
  match v with
  | some m => Member.name m
  | none => "-"

/-- A car on one line. -/
def display (car : Car) : String :=
  "[id=" ++ toString car.id ++ ", brand=" ++ car.brand.text ++ ", engine=" ++
    Member.name car.engine ++ ", camera=" ++ orDash car.camera ++ ", smartphone=" ++
    orDash car.smartphone ++ ", adas=" ++ orDash car.adas ++ "]"

instance : ToString Car :=
  ⟨display⟩

end Car

end Fitout
