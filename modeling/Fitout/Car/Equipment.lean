import Fitout.Field
import Fitout.Rejection
import Fitout.Text.Lowercase

/-!
# Enumerated equipment

Engines, cameras, smartphone links and driver assistance. Each is an enumeration of named
members; a text denotes the member whose name it spells once case and the separators `-`, `_` and
space are disregarded. For the optional three, `none` is a member like the others: a car that
states it has no camera is not a car that leaves the camera open.
-/

namespace Fitout

/-- The engine of a car. -/
inductive Engine
  | electric
  | hybrid
  | diesel
  | petrol
  | hydrogen
  | lng
  deriving DecidableEq, Repr

/-- The parking camera of a car. -/
inductive Camera
  | front
  | rear
  | both
  | none
  deriving DecidableEq, Repr

/-- The smartphone link of a car. -/
inductive Smartphone
  | carPlay
  | androidAuto
  | both
  | none
  deriving DecidableEq, Repr

/-- The driver assistance of a car. -/
inductive Adas
  | adaptiveControl
  | copilot
  | both
  | none
  deriving DecidableEq, Repr

/-- An enumeration of named members that fills one field of a car. -/
class Member (α : Type) where
  /-- The field that the enumeration fills. -/
  field : Field
  /-- The members in declaration order. -/
  all : List α
  /-- The name of a member, its words joined by hyphens. -/
  name : α → String

instance : Member Engine where
  field := .engine
  all := [.electric, .hybrid, .diesel, .petrol, .hydrogen, .lng]
  name
    | .electric => "electric"
    | .hybrid => "hybrid"
    | .diesel => "diesel"
    | .petrol => "petrol"
    | .hydrogen => "hydrogen"
    | .lng => "lng"

instance : Member Camera where
  field := .camera
  all := [.front, .rear, .both, .none]
  name
    | .front => "front"
    | .rear => "rear"
    | .both => "both"
    | .none => "none"

instance : Member Smartphone where
  field := .smartphone
  all := [.carPlay, .androidAuto, .both, .none]
  name
    | .carPlay => "car-play"
    | .androidAuto => "android-auto"
    | .both => "both"
    | .none => "none"

instance : Member Adas where
  field := .adas
  all := [.adaptiveControl, .copilot, .both, .none]
  name
    | .adaptiveControl => "adaptive-control"
    | .copilot => "copilot"
    | .both => "both"
    | .none => "none"

namespace Member

/-- The characters that may stand anywhere in a member's name. -/
def isSeparator (c : Char) : Bool :=
  c == '-' || c == '_' || c == ' '

/-- A text without separators and in lower case. -/
def compact (s : String) : List Char :=
  Text.lowercaseAll (s.toList.filter (!isSeparator ·))

variable {α : Type} [Member α]

/-- The member that a text spells. -/
def ofName? (s : String) : Option α :=
  (all : List α).find? fun m ↦ compact (name m) == compact s

/-- Reads a member; an unknown name is refused with the list of the members. -/
def parse (s : String) : Except Rejection α :=
  match ofName? s with
  | some m => .ok m
  | none =>
    .error ⟨(field α).name, .unknownMember (Text.trim s) ((all : List α).map name)⟩

end Member

end Fitout
