import Fitout.Car
import Fitout.Command.Failure
import Fitout.Journal

/-!
# Assignments

A field and a value in one argument, parted by the first equals sign. A blank value, or a lone
tilde, makes the field absent.
-/

namespace Fitout

/-- An update of one field, as an argument states it. -/
inductive Assignment
  /-- Overwrites a field with a value. -/
  | set (field value : String)
  /-- Makes a field absent. -/
  | unset (field : String)
  deriving DecidableEq, Repr

namespace Assignment

/-- Reads an assignment. -/
def parse (raw : String) : Except Failure Assignment :=
  let cs := raw.toList
  match cs.dropWhile (· != '=') with
  | [] => .error (.arguments (.noEquals raw))
  | _ :: rest =>
    let field := Text.trimChars (cs.takeWhile (· != '='))
    let value := Text.trimChars rest
    if field.isEmpty then .error (.arguments (.noField raw))
    else if value.isEmpty || value == ['~'] then .ok (.unset (String.ofList field))
    else .ok (.set (String.ofList field) (String.ofList value))

/-- The configuration after an assignment. -/
def apply (car : Car) : Assignment → Except Error Car
  | set field value => car.setNamed field value
  | unset field => car.unsetNamed field

end Assignment

/-- The configuration after assignments, up to the first that fails. -/
def Car.assign (car : Car) (assignments : List Assignment) : Except Error Car :=
  assignments.foldlM Assignment.apply car

namespace Journal

/-- The records of one assignment. -/
def assignment (car : Car) : Assignment → List Record
  | .set name value =>
    match Field.ofName? name with
    | some f => [setting f value]
    | none => []
  | .unset name =>
    match Field.ofName? name with
    | some f => if (car.unset f).isOk then [unset f] else []
    | none => []

/-- The records of assignments. -/
def assignments (car : Car) : List Assignment → List Record
  | [] => []
  | a :: rest =>
    assignment car a ++
      match a.apply car with
      | .ok car => assignments car rest
      | .error _ => []

end Journal

end Fitout
