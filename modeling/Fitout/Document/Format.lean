import Fitout.Files.Path
import Fitout.Text.Lowercase

/-!
# Document formats

Documents are written in YAML or JSON. A format is chosen by its name or by the extension of a
file; `yml` is another name of YAML. Names are compared in full lower case, extensions in the
lower case of ASCII; an extension that is no text names no format.
-/

namespace Fitout

/-- The format of a document. -/
inductive Format
  | yaml
  | json
  deriving DecidableEq, Repr

namespace Format

/-- The format used when none is named. -/
def standard : Format :=
  yaml

/-- The name of a format. -/
def name : Format → String
  | yaml => "yaml"
  | json => "json"

instance : ToString Format :=
  ⟨name⟩

/-- The format of an exact lower-case name. -/
def ofLowerName? (cs : List Char) : Option Format :=
  if cs = "yaml".toList ∨ cs = "yml".toList then some yaml
  else if cs = "json".toList then some json
  else none

/-- The format of a name in any case. -/
def ofName? (s : String) : Option Format :=
  ofLowerName? (Text.lowercaseAll s.toList)

/-- Reads the name of a format. -/
def parse (s : String) : Except String Format :=
  match ofName? s with
  | some f => .ok f
  | none => .error ("invalid format: " ++ s)

/-- The format that the extension of a path asks for. -/
def ofPath? (p : Path) : Option Format :=
  (p.extension?.bind Text.ofBytes?).bind fun e ↦ ofLowerName? (e.toList.map Char.toLower)

end Format

end Fitout
