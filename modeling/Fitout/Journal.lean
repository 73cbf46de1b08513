import Fitout.Car.Overrides
import Fitout.Document
import Fitout.Log
import Fitout.Text.Quoted

/-!
# The journal of operations

The log records that go with each operation on configurations: what was tried, in order, up to the
first failure. A record of a value that is set comes before the value is read, so a refused value
is recorded too; every other record tells of something that was done.
-/

namespace Fitout.Journal

/-- The name of a member in records: its words capitalised and joined. -/
def capitalised : Bool → List Char → List Char
  | _, [] => []
  | fresh, c :: cs =>
    if c == '-' then capitalised true cs
    else (if fresh then c.toUpper else c) :: capitalised false cs

/-- An optional member in records. -/
def optional {α : Type} [Member α] : Option α → String
  | some m => "Some(" ++ String.ofList (capitalised true (Member.name m).toList) ++ ")"
  | none => "None"

/-- That a field is being set. -/
def setting (f : Field) (value : String) : Record :=
  ⟨.trace, "setting " ++ f.name ++ " = " ++ Text.quoted value⟩

/-- That a field is absent now. -/
def unset (f : Field) : Record :=
  ⟨.trace, "unset " ++ f.name⟩

/-- That a car is made from its mandatory fields. -/
def creating (car : Car) : Record :=
  ⟨.debug, "creating configuration builder for car " ++ toString car.id ++ " (" ++
    car.brand.text ++ ", " ++ Member.name car.engine ++ ")"⟩

/-- That a car is taken as the base of changes. -/
def copying (car : Car) : Record :=
  ⟨.debug, "copying configuration of car " ++ toString car.id ++ " into builder"⟩

/-- That an optional field is replaced. -/
def replacing {α : Type} [Member α] (old new : Option α) : List Record :=
  match new with
  | some m =>
    [⟨.trace, (Member.field α).name ++ ": " ++ optional old ++ " -> " ++ Member.name m⟩]
  | none => []

/-- The records of a merge. -/
def merge (base update : Car) : List Record :=
  ⟨.debug, "merging update for car " ++ toString update.id ++ " onto car " ++ toString base.id⟩ ::
    (replacing base.camera update.camera ++ replacing base.smartphone update.smartphone ++
      replacing base.adas update.adas)

/-- The records of making a car. -/
def create (id : UInt32) (brand : String) (engine : Engine) : List Record :=
  match Car.create id brand engine with
  | .ok car => [creating car]
  | .error _ => []

/-- The records of setting fields one by one. -/
def settings (car : Car) : List (Field × String) → List Record
  | [] => []
  | (f, value) :: rest =>
    setting f value ::
      match car.set f value with
      | .ok car => settings car rest
      | .error _ => []

/-- The records of checking a raw sheet. -/
def sheet (s : Sheet.Raw) : List Record :=
  match Member.parse s.engine with
  | .error _ => []
  | .ok engine =>
    match Car.create s.id s.brand engine with
    | .error _ => []
    | .ok car => creating car :: settings car s.stated

/-- The records of reading a document. -/
def document (f : Format) (text : String) : List Record :=
  match f.readRecord (Sheet.shape Sheet.rawReaders) text with
  | .error _ => []
  | .ok raw => sheet raw

/-- That the document in a file is read now. -/
def loading (f : Format) (p : Path) : Record :=
  ⟨.debug, "loading " ++ f.name ++ " configuration from " ++ p.shown⟩

/-- That a file was written. -/
def saved (f : Format) (p : Path) : Record :=
  ⟨.debug, "saved " ++ f.name ++ " configuration to " ++ p.shown⟩

/-- That an override was applied. -/
def overridden (o : Override) : Record :=
  ⟨.debug, "applied override " ++ o.field.variableName ++ "=" ++ Text.quoted o.value⟩

/-- The records of one override. -/
def override (car : Car) (o : Override) : List Record :=
  (if o.isBlank then (if (car.unset o.field).isOk then [unset o.field] else [])
    else [setting o.field o.value]) ++
    if (o.apply car).isOk then [overridden o] else []

/-- The records of overrides. -/
def overrides (car : Car) : List Override → List Record
  | [] => []
  | o :: rest =>
    override car o ++
      match o.apply car with
      | .ok car => overrides car rest
      | .error _ => []

end Fitout.Journal
