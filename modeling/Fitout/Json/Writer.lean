import Fitout.Document.Scalar
import Fitout.Json.Text

/-!
# Writing JSON

A record is written on one line without blanks, or one field to a line, indented by two spaces.
-/

namespace Fitout.Json

/-- A value. -/
def writeScalar : Scalar → List Char
  | .number n => Nat.toDigits 10 n.toNat
  | .text s => writeString s

/-- A field: its name, a colon and its value. -/
def writeField (gap : List Char) (field : String × Scalar) : List Char :=
  writeString field.1 ++ [':'] ++ gap ++ writeScalar field.2

/-- A record on one line. -/
def writeCompact (entries : List (String × Scalar)) : String :=
  String.ofList
    (['\x7b'] ++ [','].intercalate (entries.map (writeField [])) ++ ['\x7d'])

/-- A record with one field to a line and a line feed at the end. -/
def writePretty (entries : List (String × Scalar)) : String :=
  String.ofList <|
    if entries.isEmpty then ['\x7b', '\x7d', '\n']
    else
      ['\x7b', '\n'] ++
        [',', '\n'].intercalate (entries.map fun e ↦ [' ', ' '] ++ writeField [' '] e) ++
        ['\n', '\x7d', '\n']

/-- A single value as a document. -/
def writeSingle (v : Scalar) : String :=
  String.ofList (writeScalar v)

end Fitout.Json
