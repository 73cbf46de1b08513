import Fitout.Proofs.Document.Shown
import Fitout.Proofs.Text.Numeral

/-!
# Literals told by an outline

What a document states need not be a value of a configuration: an integer may be of any size
(`Literal`). An outline tells some literals if it shows their values, up to the first integer that
does not fit 32 bits; there a reader stops, and what comes after does not matter (`Told`). So where
all literals are values, they are shown (`Outline.Tells.shows`).
-/

namespace Fitout

/-- A value as it is stated in a document. -/
inductive Literal
  /-- An integer of any size. -/
  | integer (n : Int)
  /-- A text. -/
  | text (s : String)
  deriving DecidableEq, Repr

namespace Literal

/-- A literal as it is written by name: an integer in decimal digits, a text as it is. -/
def written : Literal → String
  | integer n => String.ofList ((if n < 0 then ['-'] else []) ++ Nat.toDigits 10 n.natAbs)
  | text s => s

/-- The value that a literal stands for; an integer must fit 32 bits. -/
def scalar? : Literal → Option Scalar
  | integer n => if 0 ≤ n then (Decimal.fitWord n.toNat).map .number else none
  | text s => some (.text s)

@[simp]
theorem toList_written_integer (n : Int) :
    (integer n).written.toList =
      (if n < 0 then ['-'] else []) ++ Nat.toDigits 10 n.natAbs := by
  simp [written]

/-- The integers that stand for no value are those that do not fit 32 bits. -/
theorem scalar?_integer_eq_none_iff {n : Int} :
    (integer n).scalar? = none ↔ n < 0 ∨ (UInt32.size : Int) ≤ n := by
  simp only [scalar?, Decimal.fitWord]
  split
  next hn =>
    have hsize : n.toNat < UInt32.size ↔ n < (UInt32.size : Int) := by omega
    simp only [hsize, Option.map_eq_none_iff]
    split
    next hlt => simp only [reduceCtorEq, false_iff]; omega
    next hge => simp only [true_iff]; omega
  next hn => simp only [true_iff]; omega

/-- The integers that stand for a value are written as its digits. -/
theorem scalar?_integer_eq_some {n : Int} {v : Scalar} (h : (integer n).scalar? = some v) :
    0 ≤ n ∧ ∃ w : UInt32, v = .number w ∧ n.natAbs = w.toNat := by
  simp only [scalar?, Option.ite_none_right_eq_some, Option.map_eq_some_iff] at h
  obtain ⟨hn, w, hw, rfl⟩ := h
  have hw := Decimal.fitWord_eq_some_iff.1 hw
  exact ⟨hn, w, rfl, by omega⟩

end Literal

/-- A value as a literal. -/
def Scalar.literal : Scalar → Literal
  | number w => .integer w.toNat
  | text s => .text s

@[simp]
theorem Scalar.scalar?_literal (v : Scalar) : v.literal.scalar? = some v := by
  cases v with
  | number w => simp [literal, Literal.scalar?]
  | text s => rfl

/-- A value in a document that stands where a literal is written: it shows the value of the literal,
if it has one, and else it is no number. -/
def Node.Tells (n : Node) (literal : Literal) : Prop :=
  match literal.scalar? with
  | some v => n.Shows v
  | none => ∃ fault, n.number = .error fault

/-- The entries of a record tell some literals under their keys, up to the first that stands for no
value. -/
inductive Told : List Entry → Ending → List (String × Literal) → Prop
  | nil : Told [] (.closed true) []
  | cons {e : Entry} {es : List Entry} {ending : Ending} {key : String} {literal : Literal}
      {v : Scalar} {fields : List (String × Literal)} (hv : literal.scalar? = some v)
      (he : e.Shows (key, v)) (hrest : Told es ending fields) :
      Told (e :: es) ending ((key, literal) :: fields)
  /-- Whatever comes after such a literal. -/
  | stop {e : Entry} {es : List Entry} {ending : Ending} {key : String} {literal : Literal}
      {fault : Fault} {fields : List (String × Literal)} (hliteral : literal.scalar? = none)
      (hkey : e.key = .ok key) (hnumber : e.value.number = .error fault) :
      Told (e :: es) ending ((key, literal) :: fields)

/-- An entry that tells one more literal, with the others told behind it if there is need. -/
theorem Told.of_tells {e : Entry} {es : List Entry} {ending : Ending} {key : String}
    {literal : Literal} {fields : List (String × Literal)} (hkey : e.key = .ok key)
    (hvalue : e.value.Tells literal) (hrest : literal.scalar? ≠ none → Told es ending fields) :
    Told (e :: es) ending ((key, literal) :: fields) := by
  rw [Node.Tells] at hvalue
  split at hvalue
  next v hv => exact .cons hv ⟨hkey, hvalue⟩ (hrest (hv ▸ Option.some_ne_none v))
  next hnone =>
    obtain ⟨fault, hnumber⟩ := hvalue
    exact .stop hnone hkey hnumber

/-- Entries that each tell a literal. -/
theorem Told.of_forall₂ {es : List Entry} {fields : List (String × Literal)}
    (h : List.Forall₂ (fun e f ↦ e.key = .ok f.1 ∧ e.value.Tells f.2) es fields) :
    Told es (.closed true) fields := by
  induction h with
  | nil => exact .nil
  | cons h _ ih => exact of_tells h.1 h.2 fun _ ↦ ih

/-- A record that tells some literals under their keys. -/
def Outline.Tells (o : Outline) (fields : List (String × Literal)) : Prop :=
  ∃ entries ending, o = .record entries ending ∧ Told entries ending fields

/-- Where all literals are values, they are shown. -/
theorem Told.shows {es : List Entry} {ending : Ending} {fields : List (String × Scalar)}
    (h : Told es ending (fields.map fun f ↦ (f.1, f.2.literal))) :
    ending = .closed true ∧ List.Forall₂ Entry.Shows es fields := by
  induction fields generalizing es with
  | nil =>
    cases h
    exact ⟨rfl, .nil⟩
  | cons field fields ih =>
    cases h with
    | cons hv he hrest =>
      rw [Scalar.scalar?_literal] at hv
      cases hv
      obtain ⟨hending, hshows⟩ := ih hrest
      exact ⟨hending, .cons he hshows⟩
    | stop hliteral => simp at hliteral

theorem Outline.Tells.shows {o : Outline} {fields : List (String × Scalar)}
    (h : o.Tells (fields.map fun f ↦ (f.1, f.2.literal))) : o.Shows fields := by
  obtain ⟨entries, ending, rfl, htold⟩ := h
  obtain ⟨rfl, hshows⟩ := htold.shows
  exact ⟨entries, rfl, hshows⟩

end Fitout
