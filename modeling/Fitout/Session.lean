import Fitout.Car.Edit
import Fitout.Document

/-!
# Sessions

What a caller of the library does with configurations, as values: making them from raw values or
from documents, changing and merging those obtained before. A configuration and a builder that
starts from it hold the same fields, so both are cars here. A setter that takes a member of an
enumeration is the edit with the name of the member, which reads back as the member. An operation
that fails gives nothing, and the caller goes on with what there is.
-/

namespace Fitout

/-- One operation of a caller. Cars are referred to by their positions among those obtained so
far. -/
inductive Operation
  /-- Makes a car from raw values. -/
  | create (id : UInt32) (brand : String) (engine : Engine)
  /-- Reads a document and checks its values at the end. -/
  | parse (format : Format) (text : String)
  /-- Reads a document and checks each value where it stands. -/
  | decode (format : Format) (text : String)
  /-- Changes a copy of a car, edit by edit. -/
  | edit (source : Nat) (edits : List Edit)
  /-- Merges cars onto a copy of another. -/
  | merge (base : Nat) (updates : List Nat)

/-- The car that an operation gives, if it does not fail. -/
def Operation.car? (cars : List Car) : Operation → Option Car
  | create id brand engine => (Car.create id brand engine).toOption
  | parse format text => (Car.ofDocument format text).toOption
  | decode format text => (Car.decode format text).toOption
  | edit source edits => (cars[source]?).map (·.edit edits)
  | merge base updates => do
    let base ← cars[base]?
    let updates ← updates.mapM fun i ↦ cars[i]?
    return base.mergeAll updates

/-- The cars after an operation. -/
def Operation.extend (cars : List Car) (op : Operation) : List Car :=
  cars ++ (op.car? cars).toList

/-- All cars that are obtained in a run of operations, in order. -/
def Car.obtained (ops : List Operation) : List Car :=
  ops.foldl Operation.extend []

end Fitout
