import Fitout.Proofs.Car.Values

/-!
# Changes of single fields

A field is changed to what a text stands for, or to absence. Whether such a change is accepted is
decided by the field and the text alone (`Change.isAcceptable`). If it is, the car has in the field
what was asked for and is as before in all others (`Car.change_eq_ok_iff`); if not, the change is
refused for every car in the same way, in the name of the field (`Change.exists_refusal`).

So changes that are made one after the other, by whatever steps, leave in each field what the last
change of it asks for (`lastWins_of_foldlM`), and it does not matter in which order changes of
different fields are made (`Car.change_comm`).
-/

namespace Fitout

/-! ### Refused values -/

section Refused

variable {text : String} {r : Rejection}

theorem CarId.field_of_parse_error (h : parse text = .error r) : r.field = Field.id.name := by
  unfold parse ofWord at h
  split at h
  · split at h
    · cases h
    · cases h
      rfl
  · cases h
    rfl

theorem Brand.field_of_parse_error (h : parse text = .error r) : r.field = Field.brand.name := by
  simp only [parse] at h
  split_ifs at h <;> cases h <;> rfl

theorem Member.field_of_parse_error {α : Type} [Member α]
    (h : (parse text : Except Rejection α) = .error r) : r.field = (field α).name := by
  unfold parse at h
  split at h
  · cases h
  · cases h
    rfl

end Refused

namespace Car

variable {c : Car} {f : Field} {text : String} {r : Rejection}

/-- A text is refused for what it is, and not for the car. -/
theorem set_error (h : c.set f text = .error r) (c' : Car) : c'.set f text = .error r := by
  cases f <;> simpa [set, Except.map_eq_error_iff] using h

/-- A refused text is refused for the field that is set. -/
theorem field_of_set_error (h : c.set f text = .error r) : r.field = f.name := by
  cases f with
  | id => exact CarId.field_of_parse_error (Except.map_eq_error_iff.1 h)
  | brand => exact Brand.field_of_parse_error (Except.map_eq_error_iff.1 h)
  | engine => exact Member.field_of_parse_error (α := Engine) (Except.map_eq_error_iff.1 h)
  | camera => exact Member.field_of_parse_error (α := Camera) (Except.map_eq_error_iff.1 h)
  | smartphone => exact Member.field_of_parse_error (α := Smartphone) (Except.map_eq_error_iff.1 h)
  | adas => exact Member.field_of_parse_error (α := Adas) (Except.map_eq_error_iff.1 h)

end Car

/-! ### Accepted values -/

namespace Field

/-- Whether a text is accepted for a field, that is by the reader of its values. -/
def accepts (text : String) : Field → Bool
  | id => (CarId.parse text).isOk
  | brand => (Brand.parse text).isOk
  | engine => (Member.parse text : Except Rejection Engine).isOk
  | camera => (Member.parse text : Except Rejection Camera).isOk
  | smartphone => (Member.parse text : Except Rejection Smartphone).isOk
  | adas => (Member.parse text : Except Rejection Adas).isOk

/-- A car has in a field what a text stands for. -/
def Reads (text : String) (car : Car) : Field → Prop
  | id => CarId.parse text = .ok car.id
  | brand => Brand.parse text = .ok car.brand
  | engine => Member.parse text = .ok car.engine
  | camera => ∃ m, Member.parse text = .ok m ∧ car.camera = some m
  | smartphone => ∃ m, Member.parse text = .ok m ∧ car.smartphone = some m
  | adas => ∃ m, Member.parse text = .ok m ∧ car.adas = some m

theorem Same.value?_eq {f : Field} {a b : Car} (h : f.Same a b) : a.value? f = b.value? f := by
  cases f with
  | id => exact congrArg (fun v : CarId ↦ some (toString v)) h
  | brand => exact congrArg (fun v : Brand ↦ some v.text) h
  | engine => exact congrArg (fun v : Engine ↦ some (Member.name v)) h
  | camera | smartphone | adas => exact congrArg (Option.map Member.name) h

theorem Reads.congr {f : Field} {text : String} {a b : Car} (ha : f.Reads text a)
    (h : f.Same a b) : f.Reads text b := by
  cases f with
  | id | brand | engine => exact Eq.trans ha (congrArg Except.ok h)
  | camera | smartphone | adas =>
    obtain ⟨m, hm, hv⟩ := ha
    exact ⟨m, hm, (Eq.symm h).trans hv⟩

end Field

namespace Car

variable {car other after : Car} {f : Field} {text : String}

/-- Setting a field to a text takes it over from any car that has what the text stands for. -/
theorem set_of_reads (h : f.Reads text other) (car : Car) :
    car.set f text = .ok (car.take other f) := by
  cases f with
  | id | brand | engine =>
    simp only [Field.Reads] at h
    simp [set, h, Except.map, take]
  | camera | smartphone | adas =>
    obtain ⟨m, hm, hv⟩ := h
    simp [set, hm, Except.map, take, hv]

theorem reads_of_set (h : car.set f text = .ok after) : f.Reads text after := by
  cases f with
  | id | brand | engine =>
    obtain ⟨v, hv, rfl⟩ := Except.map_eq_ok_iff.1 h
    exact hv
  | camera | smartphone | adas =>
    obtain ⟨m, hm, rfl⟩ := Except.map_eq_ok_iff.1 h
    exact ⟨m, hm, rfl⟩

/-- Clearing a field takes it over from any car where it is absent. -/
theorem unset_of_absent (h : other.value? f = none) (car : Car) :
    car.unset f = .ok (car.take other f) := by
  cases f with
  | id | brand | engine => cases h
  | camera | smartphone | adas =>
    have hnone := Option.map_eq_none_iff.1 h
    simp [unset, take, hnone]

theorem absent_of_unset (h : car.unset f = .ok after) : after.value? f = none := by
  cases f <;> cases h <;> rfl

/-- Whether a text is accepted does not depend on the car. -/
theorem exists_set_iff : (∃ after, car.set f text = .ok after) ↔ f.accepts text = true := by
  have hmap {α : Type} {x : Except Rejection α} {put : α → Car} :
      (∃ after, x.map put = .ok after) ↔ x.isOk = true := by
    cases x <;> simp [Except.map, Except.isOk, Except.toBool]
  cases f <;> exact hmap

theorem exists_unset_iff : (∃ after, car.unset f = .ok after) ↔ f.isMandatory = false := by
  cases f <;> simp [unset, Field.isMandatory]

end Car

/-! ### Changes -/

/-- A change of one field. -/
structure Change where
  /-- The field. -/
  field : Field
  /-- The text that the field is set to; without one the field is made absent. -/
  text? : Option String
  deriving DecidableEq, Repr

/-- A car after a change. -/
def Car.change (car : Car) (c : Change) : Except Rejection Car :=
  match c.text? with
  | some text => car.set c.field text
  | none => car.unset c.field

namespace Change

/-- Whether a change is acceptable on its own: a text must be accepted for the field, and only an
optional field can be made absent. -/
def isAcceptable (c : Change) : Bool :=
  match c.text? with
  | some text => c.field.accepts text
  | none => !c.field.isMandatory

/-- A car has in the field of a change what the change asks for. -/
def Holds (c : Change) (car : Car) : Prop :=
  match c.text? with
  | some text => c.field.Reads text car
  | none => car.value? c.field = none

variable {c d : Change} {car other mid after : Car}

theorem Holds.congr {a b : Car} (ha : c.Holds a) (h : c.field.Same a b) : c.Holds b := by
  obtain ⟨f, _ | text⟩ := c
  · exact h.value?_eq.symm.trans ha
  · exact Field.Reads.congr ha h

/-- A change takes its field over from any car that has what the change asks for. -/
theorem change_of_holds (h : c.Holds other) (car : Car) :
    car.change c = .ok (car.take other c.field) := by
  obtain ⟨f, _ | text⟩ := c
  · exact Car.unset_of_absent h car
  · exact Car.set_of_reads h car

theorem holds_of_change (h : car.change c = .ok after) : c.Holds after := by
  obtain ⟨f, _ | text⟩ := c
  · exact Car.absent_of_unset h
  · exact Car.reads_of_set h

/-- A change of a car that has what is asked for makes no difference. -/
theorem change_eq_self (h : c.Holds car) : car.change c = .ok car := by
  have htake : car.take car c.field = car := by cases c.field <;> rfl
  rw [change_of_holds h, htake]

theorem exists_change_iff : (∃ after, car.change c = .ok after) ↔ c.isAcceptable = true := by
  obtain ⟨f, _ | text⟩ := c
  · rw [isAcceptable, Bool.not_eq_true']
    exact Car.exists_unset_iff
  · exact Car.exists_set_iff

/-- A change that is not acceptable is refused for every car alike, in the name of its field. -/
theorem exists_refusal (h : c.isAcceptable = false) (car : Car) :
    ∃ r, r.field = c.field.name ∧ ∀ other : Car, other.change c = .error r := by
  rcases hchange : car.change c with r | after
  · refine ⟨r, ?_⟩
    obtain ⟨f, _ | text⟩ := c
    · cases f <;> cases hchange <;> exact ⟨rfl, fun _ ↦ rfl⟩
    · exact ⟨Car.field_of_set_error hchange, Car.set_error hchange⟩
  · rw [exists_change_iff.1 ⟨after, hchange⟩] at h
    cases h

end Change

namespace Car

variable {c d : Change} {car mid after : Car}

/-- A change leaves the other fields as they are. -/
theorem same_of_change (h : car.change c = .ok after) {f : Field} (hne : f ≠ c.field) :
    f.Same car after := by
  obtain ⟨g, _ | text⟩ := c
  · exact same_of_unset h hne
  · exact same_of_set h hne

/-- A change gives its field what it asks for and leaves the others as they are. -/
theorem change_eq_ok_iff :
    car.change c = .ok after ↔ c.Holds after ∧ ∀ f ≠ c.field, f.Same car after := by
  constructor
  · intro h
    exact ⟨Change.holds_of_change h, fun f hne ↦ same_of_change h hne⟩
  · rintro ⟨hholds, hsame⟩
    have htake : car.take after c.field = after := by
      refine Field.Same.eq_of_forall fun f ↦ ?_
      by_cases hf : f = c.field
      · exact hf ▸ same_take car after c.field
      · exact (same_take_of_ne hf).symm.trans (hsame f hf)
    rw [Change.change_of_holds hholds, htake]

/-- Changes of different fields may be made in either order. -/
theorem change_comm (hne : c.field ≠ d.field) (hc : car.change c = .ok mid)
    (hd : mid.change d = .ok after) :
    ∃ mid', car.change d = .ok mid' ∧ mid'.change c = .ok after := by
  have hholds : c.Holds after :=
    (Change.holds_of_change hc).congr (same_of_change hd hne)
  refine ⟨_, Change.change_of_holds (Change.holds_of_change hd) car,
    change_eq_ok_iff.2 ⟨hholds, fun f hf ↦ ?_⟩⟩
  by_cases hfd : f = d.field
  · exact hfd ▸ same_take car after d.field
  · exact (same_take_of_ne hfd).symm.trans ((same_of_change hc hf).trans (same_of_change hd hfd))

end Car

/-! ### Runs of changes -/

/-- What is left by steps that are made one after the other, each of which asks for a change: a
field has what the last change of it asks for, and is as before if there is none. -/
structure LastWins {α : Type} (asks : α → Change → Prop) (as : List α) (car after : Car) : Prop
    where
  /-- The last change of a field stays. -/
  changed : ∀ {before later : List α} {a : α} {c : Change}, as = before ++ a :: later →
    asks a c → (∀ b ∈ later, ∀ d, asks b d → d.field ≠ c.field) → c.Holds after
  /-- What is not changed is as before. -/
  kept : ∀ f : Field, (∀ a ∈ as, ∀ c, asks a c → c.field ≠ f) → f.Same car after

section Run

variable {α ε : Type} {step : Car → α → Except ε Car} {asks : α → Change → Prop}

/-- Steps that each make the one change that they ask for leave the last change of each field. -/
theorem lastWins_of_foldlM
    (hstep : ∀ {car after : Car} {a : α}, step car a = .ok after →
      ∃ c, asks a c ∧ (∀ d, asks a d → d = c) ∧ car.change c = .ok after)
    {as : List α} {car after : Car} (h : as.foldlM step car = .ok after) :
    LastWins asks as car after := by
  induction as generalizing car with
  | nil =>
    cases h
    exact ⟨fun has ↦ absurd has (by simp), fun f _ ↦ .refl f _⟩
  | cons a as ih =>
    rw [List.foldlM_cons, Except.bind_eq_ok_iff] at h
    obtain ⟨next, hnext, hrest⟩ := h
    obtain ⟨c, hasks, hunique, hchange⟩ := hstep hnext
    have ih := ih hrest
    constructor
    · intro before later b d hsplit hb hlater
      cases before with
      | nil =>
        -- No later step asks for a change of this field, so what it got here is kept.
        obtain ⟨rfl, rfl⟩ := List.cons.inj hsplit
        obtain rfl := hunique d hb
        exact (Change.holds_of_change hchange).congr (ih.kept d.field hlater)
      | cons x before => exact ih.changed (List.cons.inj hsplit).2 hb hlater
    · intro f hf
      have hne : f ≠ c.field := (hf a List.mem_cons_self c hasks).symm
      exact (Car.same_of_change hchange hne).trans
        (ih.kept f fun b hb ↦ hf b (List.mem_cons_of_mem a hb))

end Run

end Fitout
