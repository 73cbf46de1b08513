import Fitout.Car
import Fitout.Document.Shape
import Fitout.Profile

/-!
# Cars and profiles in documents

The record of a car, read in one of two ways. A *raw* sheet keeps every value as a number or a
text and is checked once the whole document is read, as if each field were set by name. A
*checked* sheet refuses a value where it stands. Both accept the same documents; they differ in
the fault they name.
-/

namespace Fitout

/-- The fields of a car in a document, with whatever stands for each of them. -/
structure Sheet (Id Brand Engine Camera Smartphone Adas : Type) where
  /-- The identifier. -/
  id : Id
  /-- The brand. -/
  brand : Brand
  /-- The engine. -/
  engine : Engine
  /-- The camera, if stated. -/
  camera : Option Camera
  /-- The smartphone link, if stated. -/
  smartphone : Option Smartphone
  /-- The driver assistance, if stated. -/
  adas : Option Adas

namespace Sheet

/-- A sheet while it is read. -/
structure Draft (Id Brand Engine Camera Smartphone Adas : Type) where
  /-- The identifier, once read. -/
  id : Option Id := none
  /-- The brand, once read. -/
  brand : Option Brand := none
  /-- The engine, once read. -/
  engine : Option Engine := none
  /-- The camera, if stated. -/
  camera : Option Camera := none
  /-- The smartphone link, if stated. -/
  smartphone : Option Smartphone := none
  /-- The driver assistance, if stated. -/
  adas : Option Adas := none

/-- How the value of each field is read. -/
structure Readers (Id Brand Engine Camera Smartphone Adas : Type) where
  /-- Reads an identifier. -/
  id : Node → Except Fault Id
  /-- Reads a brand. -/
  brand : Node → Except Fault Brand
  /-- Reads an engine. -/
  engine : Node → Except Fault Engine
  /-- Reads a camera. -/
  camera : Node → Except Fault Camera
  /-- Reads a smartphone link. -/
  smartphone : Node → Except Fault Smartphone
  /-- Reads a driver assistance. -/
  adas : Node → Except Fault Adas

variable {I B E C S A : Type}

/-- The sheet of a draft, or the name of the first mandatory field that it lacks. -/
def Draft.finish (d : Draft I B E C S A) : Except String (Sheet I B E C S A) :=
  match d.id, d.brand, d.engine with
  | none, _, _ => .error Field.id.name
  | _, none, _ => .error Field.brand.name
  | _, _, none => .error Field.engine.name
  | some id, some brand, some engine =>
    .ok { id, brand, engine, camera := d.camera, smartphone := d.smartphone, adas := d.adas }

/-- The record of a car. -/
def shape (r : Readers I B E C S A) : Shape (Draft I B E C S A) (Sheet I B E C S A) where
  slots :=
    [⟨Field.id.name, fun n d ↦ (r.id n).map fun v ↦ { d with id := some v }⟩,
      ⟨Field.brand.name, fun n d ↦ (r.brand n).map fun v ↦ { d with brand := some v }⟩,
      ⟨Field.engine.name, fun n d ↦ (r.engine n).map fun v ↦ { d with engine := some v }⟩,
      ⟨Field.camera.name, fun n d ↦ (n.optional r.camera).map fun v ↦ { d with camera := v }⟩,
      ⟨Field.smartphone.name,
        fun n d ↦ (n.optional r.smartphone).map fun v ↦ { d with smartphone := v }⟩,
      ⟨Field.adas.name, fun n d ↦ (n.optional r.adas).map fun v ↦ { d with adas := v }⟩]
  start := {}
  finish := Draft.finish

/-! ### Raw sheets -/

/-- A sheet whose values are not yet checked. -/
abbrev Raw :=
  Sheet UInt32 String String String String String

/-- Numbers and texts are taken as they are. -/
def rawReaders : Readers UInt32 String String String String String where
  id := Node.number
  brand := Node.text
  engine := Node.text
  camera := Node.text
  smartphone := Node.text
  adas := Node.text

/-- The optional fields of a raw sheet that are stated, in order. -/
def Raw.stated (s : Raw) : List (Field × String) :=
  (s.camera.map (Field.camera, ·)).toList ++ (s.smartphone.map (Field.smartphone, ·)).toList ++
    (s.adas.map (Field.adas, ·)).toList

/-- The car of a raw sheet. The engine is checked first, then the identifier and the brand; the
stated optional fields are set one by one. -/
def Raw.check (s : Raw) : Except Rejection Car := do
  let engine ← Member.parse s.engine
  let car ← Car.create s.id s.brand engine
  s.stated.foldlM (fun car v ↦ car.set v.1 v.2) car

/-! ### Checked sheets -/

/-- A sheet whose values are those of a car. -/
abbrev Checked :=
  Sheet CarId Brand Engine Camera Smartphone Adas

/-- A value that is checked where it stands. -/
def checking {α β : Type} (read : Node → Except Fault α) (check : α → Except Rejection β)
    (n : Node) : Except Fault β := do
  let a ← read n
  (check a).mapError .rejected

/-- Each value is checked where it stands. -/
def checkedReaders : Readers CarId Brand Engine Camera Smartphone Adas where
  id := checking Node.number CarId.ofWord
  brand := checking Node.text Brand.parse
  engine := checking Node.text Member.parse
  camera := checking Node.text Member.parse
  smartphone := checking Node.text Member.parse
  adas := checking Node.text Member.parse

/-- The car of a checked sheet. -/
def Checked.car (s : Checked) : Car where
  id := s.id
  brand := s.brand
  engine := s.engine
  camera := s.camera
  smartphone := s.smartphone
  adas := s.adas

end Sheet

/-- The record of a profile. -/
def Profile.shape : Shape Profile Profile where
  slots :=
    [⟨"id", fun n p ↦ (n.optional Node.number).map fun v ↦ { p with id := v }⟩,
      ⟨"name", fun n p ↦ (n.optional Node.text).map fun v ↦ { p with name := v }⟩]
  start := {}
  finish := .ok

end Fitout
