import Fitout.Host
import Fitout.Journal

/-!
# Cars in files

Loading and saving. The format of a file follows its extension and is settled before the file is
looked at.
-/

namespace Fitout

/-- The text of a file's content. -/
def FileError.decode (content : ByteArray) : Except FileError String :=
  match String.fromUTF8? content with
  | some s => .ok s
  | none => .error .invalidData

namespace Car

variable {m : Type → Type} [Monad m] [Host m]

/-- Loads the car in the file of a path. -/
def load (p : Path) : ExceptT Error m Car := do
  let format ← ofExcept (Format.ofPath p)
  let content ← ofExcept ((← Host.read p).mapError .file)
  let text ← ofExcept ((FileError.decode content).mapError .file)
  Host.records (Journal.loading format p :: Journal.document format text)
  ofExcept (Car.ofDocument format text)

/-- Saves a car in the file of a path. -/
def save (car : Car) (p : Path) : ExceptT Error m Unit := do
  let format ← ofExcept (Format.ofPath p)
  ofExcept ((← Host.write p (car.render format).toUTF8).mapError .file)
  Host.record (Journal.saved format p)

end Car

end Fitout
