import Fitout.Error
import Fitout.Steps
import Fitout.Text.Blank
import Fitout.Text.Decimal

/-!
# Driver profiles

A profile has two optional fields, a number and a name. Merging takes each field from the update
where it is present, so the empty profile changes nothing on either side.

A profile is also changed in place, by calls that may fail (`Call.perform`). Whatever a call does
before it fails would stay done; that it does nothing is a fact about the calls.
-/

namespace Fitout

/-- The profile of a driver. -/
structure Profile where
  /-- The driver's number, if stated. -/
  id : Option UInt32 := none
  /-- The driver's name, if stated, as it was given. -/
  name : Option String := none
  deriving DecidableEq, Repr

namespace Profile

/-- The profile that states nothing. -/
def empty : Profile :=
  {}

/-- A field of a profile. -/
inductive Field
  | id
  | name
  deriving DecidableEq, Repr

/-- The field that a name denotes: `id` or `name`, told apart by case, with blanks around. -/
def fieldNamed (name : String) : Except Error Field :=
  let t := Text.trim name
  if t = "id" then .ok .id
  else if t = "name" then .ok .name
  else .error (.unknownField t)

/-- Reads a driver's number: decimal digits with an optional plus sign, blanks around. -/
def parseNumber (value : String) : Except Rejection UInt32 :=
  match Decimal.word? (Text.trimChars value.toList) with
  | some n => .ok n
  | none => .error ⟨"id", .notNatural value⟩

/-- Overwrites the field of a name. A name is kept as given. -/
def setNamed (p : Profile) (name value : String) : Except Error Profile := do
  match ← fieldNamed name with
  | .id => ((parseNumber value).map fun n ↦ { p with id := some n }).mapError .rejected
  | .name => return { p with name := some value }

/-- Makes the field of a name absent. -/
def unsetNamed (p : Profile) (name : String) : Except Error Profile := do
  match ← fieldNamed name with
  | .id => return { p with id := none }
  | .name => return { p with name := none }

/-- The base with the update on top of it. -/
def merge (base update : Profile) : Profile where
  id := update.id <|> base.id
  name := update.name <|> base.name

/-- The base with every update on top of it, the last one uppermost. -/
def mergeAll (base : Profile) (updates : List Profile) : Profile :=
  updates.foldl merge base

@[simp]
theorem merge_empty (p : Profile) : p.merge empty = p := by
  cases p
  rfl

@[simp]
theorem empty_merge (p : Profile) : empty.merge p = p := by
  cases p with
  | mk id name => cases id <;> cases name <;> rfl

/-- A profile on one line. -/
def display (p : Profile) : String :=
  "[id=" ++ (p.id.map fun n ↦ Decimal.write n.toNat).getD "-" ++ ", name=" ++
    p.name.getD "-" ++ "]"

instance : ToString Profile :=
  ⟨display⟩

/-! ### Changes in place -/

/-- A call that changes a profile. -/
inductive Call
  /-- Overwrites the field of a name. -/
  | set (name value : String)
  /-- Makes the field of a name absent. -/
  | unset (name : String)
  /-- Puts another profile on top. -/
  | merge (update : Profile)
  deriving DecidableEq, Repr

/-- Carries out a call on a profile. -/
def Call.perform : Call → ExceptT Error (StateM Profile) Unit
  | set name value => do
    match ← ofExcept (fieldNamed name) with
    | .id =>
      let n ← ofExcept ((parseNumber value).mapError .rejected)
      modify fun p ↦ { p with id := some n }
    | .name => modify fun p ↦ { p with name := some value }
  | unset name => do
    match ← ofExcept (fieldNamed name) with
    | .id => modify fun p ↦ { p with id := none }
    | .name => modify fun p ↦ { p with name := none }
  | merge update => modify (·.merge update)

/-- The answer to a call, and the profile after it. -/
def answer (p : Profile) (c : Call) : Except Error Unit × Profile :=
  Id.run (c.perform.run.run p)

/-- The answers to calls that are made one after the other, whether they fail or not. -/
def answers (p : Profile) (calls : List Call) : List (Except Error Unit) :=
  (Steps.run answer p calls).1

/-- The profile after such calls. -/
def after (p : Profile) (calls : List Call) : Profile :=
  (Steps.run answer p calls).2

end Profile

end Fitout
