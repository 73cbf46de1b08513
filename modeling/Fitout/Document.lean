import Fitout.Document.Sheet
import Fitout.Json.Reader
import Fitout.Json.Writer
import Fitout.Yaml.Outline
import Fitout.Yaml.Writer

/-!
# Documents

Reading and writing cars and profiles in either format. `Car.ofDocument` checks the values once
the whole document is read, and then reports a refused value as an update by name would;
`Car.decode` checks each value where it stands, and reports it as a fault of the document.
-/

namespace Fitout

namespace Format

/-- The outline of a document. -/
def outline : Format → String → Outline
  | yaml => Yaml.outline
  | json => Json.outline

/-- A record as a document, in JSON one field to a line. -/
def writeRecord : Format → List (String × Scalar) → String
  | yaml => Yaml.writeRecord
  | json => Json.writePretty

/-- Reads a record from a document. -/
def readRecord {σ α : Type} (f : Format) (shape : Shape σ α) (s : String) : Except Error α :=
  (shape.read (f.outline s)).mapError (.document f)

/-- When the single value of a document is checked. -/
def checkTime : Format → CheckTime
  | yaml => .atEnd
  | json => .atOnce

/-- Reads a single value from a document and checks it. -/
def readSingle {α β : Type} (f : Format) (read : Node → Except Fault α)
    (check : α → Except Rejection β) (s : String) : Except Error β :=
  ((f.outline s).readSingle f.checkTime read fun a ↦ (check a).mapError .rejected).mapError
    (.document f)

/-- The format that is named in a document, which must be an exact name. -/
def ofVariant (s : String) : Except Fault Format :=
  if s = yaml.name then .ok yaml
  else if s = json.name then .ok json
  else .error (.unknownVariant s)

/-- Reads the name of a format from a document. -/
def decode (f : Format) (s : String) : Except Error Format :=
  (match f with
    | yaml => Yaml.readVariant ofVariant s
    | json => Json.readVariant ofVariant s).mapError (.document f)

end Format

namespace Car

/-- Reads a car from a document, checking its values at the end. -/
def ofDocument (f : Format) (s : String) : Except Error Car := do
  let sheet ← f.readRecord (Sheet.shape Sheet.rawReaders) s
  (Sheet.Raw.check sheet).mapError .rejected

/-- Reads a car from a document, checking each value where it stands. -/
def decode (f : Format) (s : String) : Except Error Car :=
  (f.readRecord (Sheet.shape Sheet.checkedReaders) s).map Sheet.Checked.car

/-- A car as a document. -/
def render (f : Format) (car : Car) : String :=
  f.writeRecord car.entries

end Car

/-- Reads a profile from a document. -/
def Profile.decode (f : Format) (s : String) : Except Error Profile :=
  f.readRecord Profile.shape s

/-- Reads an identifier from a document of its own. -/
def CarId.decode (f : Format) (s : String) : Except Error CarId :=
  f.readSingle Node.number CarId.ofWord s

/-- Reads a brand from a document of its own. -/
def Brand.decode (f : Format) (s : String) : Except Error Brand :=
  f.readSingle Node.text Brand.parse s

/-- Reads a member from a document of its own. -/
def Member.decode {α : Type} [Member α] (f : Format) (s : String) : Except Error α :=
  f.readSingle Node.text Member.parse s

end Fitout
