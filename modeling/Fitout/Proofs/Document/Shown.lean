import Fitout.Proofs.Car.Members
import Fitout.Proofs.Document.Check
import Mathlib.Data.List.Forall2

/-!
# Fields shown by an outline

Between a writer and a reader stands the outline of the written text. What the reader needs of it
is that it *shows* the fields that were written: the same keys in the same order, and under each a
value that reads as the written scalar and does not stand for an absent one. The outline itself
may differ from format to format, and from one style of a scalar to another.

Every reader of records gives back what is shown, one entry at a time (`Shape.readEntries_cons`);
an optional field is skipped where nothing was written (`Shape.readEntries_optional`). From this a
document whose outline shows the entries of a car is read as that car (`Car.ofDocument_of_shows`),
whatever its format.
-/

namespace Fitout

/-- A value that reads as a scalar, and as a value that is there. -/
def Node.Shows (n : Node) : Scalar → Prop
  | .number w => n.number = .ok w ∧ n.absent = .ok false
  | .text s => n.text = .ok s ∧ n.absent = .ok false

/-- An entry with the key and the value of a field. -/
structure Entry.Shows (e : Entry) (field : String × Scalar) : Prop where
  /-- The key is the name of the field. -/
  key : e.key = .ok field.1
  /-- The value is that of the field. -/
  value : e.value.Shows field.2

/-- A record of some fields, with nothing improper after it. -/
def Outline.Shows (o : Outline) (fields : List (String × Scalar)) : Prop :=
  ∃ entries, o = .record entries (.closed true) ∧ List.Forall₂ Entry.Shows entries fields

theorem Node.optional_eq_some {α : Type} {read : Node → Except Fault α} {n : Node} {a : α}
    (hread : read n = .ok a) (hthere : n.absent = .ok false) :
    n.optional read = .ok (some a) := by
  rw [optional, hthere]
  show (do return some (← read n)) = _
  rw [hread]
  rfl

/-! ### Reading what is shown -/

namespace Shape

variable {σ α : Type} (shape : Shape σ α) (ending : Ending)

/-- One entry of a record: its slot is known, its key is new, and the slot takes its value. -/
theorem readEntries_cons {e : Entry} {es : List Entry} {seen : List String} {key : String}
    {slot : Slot σ} {s t : σ} (hkey : e.key = .ok key)
    (hslot : shape.slots.find? (·.name == key) = some slot) (hnew : key ∉ seen)
    (hread : slot.read e.value s = .ok t) :
    shape.readEntries ending (e :: es) seen s =
      shape.readEntries ending es (key :: seen) t := by
  have hseen : seen.contains key = false := by simpa using hnew
  simp only [readEntries, hkey, hslot, hseen, hread, bind, Except.bind]
  rfl

/-- A field that is shown. -/
theorem readEntries_shown (seen : List String) (s : σ) {key : String} {v : Scalar}
    {es : List Entry} {fields : List (String × Scalar)} {slot : Slot σ} {t : σ}
    (h : List.Forall₂ Entry.Shows es ((key, v) :: fields))
    (hslot : shape.slots.find? (·.name == key) = some slot) (hnew : key ∉ seen)
    (hread : ∀ n : Node, n.Shows v → slot.read n s = .ok t) :
    ∃ es', List.Forall₂ Entry.Shows es' fields ∧
      shape.readEntries ending es seen s = shape.readEntries ending es' (key :: seen) t := by
  cases h with
  | cons hhead htail =>
    exact ⟨_, htail, readEntries_cons shape ending hhead.key hslot hnew (hread _ hhead.value)⟩

/-- A field that is shown if it is there. The keys seen so far are known only up to inclusion,
since the key of a field that is left out is not among them. -/
theorem readEntries_optional (seen : List String) (s : σ) {β : Type} (v : Option β)
    (put : β → σ → σ) {key : String} {scalar : β → Scalar} {es : List Entry}
    {fields : List (String × Scalar)} {slot : Slot σ}
    (h : List.Forall₂ Entry.Shows es ((v.map fun b ↦ (key, scalar b)).toList ++ fields))
    (hslot : shape.slots.find? (·.name == key) = some slot) (hnew : key ∉ seen)
    (hread : ∀ (n : Node) (b : β), n.Shows (scalar b) → slot.read n s = .ok (put b s)) :
    ∃ es' seen', List.Forall₂ Entry.Shows es' fields ∧ seen' ⊆ key :: seen ∧
      shape.readEntries ending es seen s =
        shape.readEntries ending es' seen' (v.elim s (put · s)) := by
  cases v with
  | none => exact ⟨es, seen, h, List.subset_cons_self _ _, rfl⟩
  | some b =>
    obtain ⟨es', htail, hstep⟩ :=
      readEntries_shown shape ending seen s h hslot hnew fun n hn ↦ hread n b hn
    exact ⟨es', _, htail, fun _ hm ↦ hm, hstep⟩

end Shape

/-! ### Sheets of cars -/

namespace Sheet

/-- The raw sheet that holds the texts of a car. -/
def Raw.ofCar (car : Car) : Raw where
  id := car.id.value
  brand := car.brand.text
  engine := Member.name car.engine
  camera := car.camera.map Member.name
  smartphone := car.smartphone.map Member.name
  adas := car.adas.map Member.name

/-- An outline that shows the entries of a car is read as the sheet of the car. -/
theorem read_of_shows {car : Car} {o : Outline} (h : o.Shows car.entries) :
    (shape rawReaders).read o = .ok (Raw.ofCar car) := by
  obtain ⟨es, rfl, hes⟩ := h
  have hes : List.Forall₂ Entry.Shows es
      (("id", .number car.id.value) :: ("brand", .text car.brand.text) ::
        ("engine", Member.scalar car.engine) ::
          ((car.camera.map fun m ↦ ("camera", Member.scalar m)).toList ++
            ((car.smartphone.map fun m ↦ ("smartphone", Member.scalar m)).toList ++
              ((car.adas.map fun m ↦ ("adas", Member.scalar m)).toList ++ [])))) := by
    simpa [Car.entries, List.append_assoc] using hes
  -- The mandatory fields are written in any case.
  obtain ⟨es, hes, hid⟩ := Shape.readEntries_shown (shape rawReaders) (.closed true) [] {} hes rfl
    (by decide) fun n hn ↦ congrArg (Except.map _) hn.1
  obtain ⟨es, hes, hbrand⟩ := Shape.readEntries_shown (shape rawReaders) (.closed true) ["id"] _
    hes rfl (by decide) fun n hn ↦ congrArg (Except.map _) hn.1
  obtain ⟨es, hes, hengine⟩ := Shape.readEntries_shown (shape rawReaders) (.closed true)
    ["brand", "id"] _ hes rfl (by decide) fun n hn ↦ congrArg (Except.map _) hn.1
  -- The optional ones may be left out. Each key is new, since those before it are among the seen.
  obtain ⟨es, seen, hes, hseen, hcamera⟩ := Shape.readEntries_optional (shape rawReaders)
    (.closed true) ["engine", "brand", "id"] _ car.camera
    (fun m d ↦ { d with camera := some (Member.name m) }) hes rfl (by decide)
    fun n m hn ↦ congrArg (Except.map _) (Node.optional_eq_some hn.1 hn.2)
  obtain ⟨es, seen', hes, hseen', hsmartphone⟩ := Shape.readEntries_optional (shape rawReaders)
    (.closed true) seen _ car.smartphone
    (fun m d ↦ { d with smartphone := some (Member.name m) }) hes rfl
    (fun h ↦ absurd (hseen h) (by decide))
    fun n m hn ↦ congrArg (Except.map _) (Node.optional_eq_some hn.1 hn.2)
  obtain ⟨es, _, hes, -, hadas⟩ := Shape.readEntries_optional (shape rawReaders) (.closed true)
    seen' _ car.adas (fun m d ↦ { d with adas := some (Member.name m) }) hes rfl
    (fun h ↦ absurd (List.cons_subset_cons _ hseen (hseen' h)) (by decide))
    fun n m hn ↦ congrArg (Except.map _) (Node.optional_eq_some hn.1 hn.2)
  cases hes
  show (shape rawReaders).readEntries (.closed true) _ [] {} = _
  rw [hid, hbrand, hengine, hcamera, hsmartphone, hadas]
  obtain ⟨id, brand, engine, camera, smartphone, adas⟩ := car
  cases camera <;> cases smartphone <;> cases adas <;> rfl

theorem optionally_name {α : Type} [Member α] [Member.Readable α] (v : Option α) :
    optionally Member.parse (v.map Member.name) = .ok v := by
  cases v with
  | none => rfl
  | some m => exact congrArg (Except.map some) (Member.parse_name m)

/-- The sheet of a car passes the check, and the check gives the car. -/
theorem check_ofCar (car : Car) : (Raw.ofCar car).check = .ok car :=
  Raw.check_eq_ok_iff.2 ⟨CarId.ofWord_value car.id, Brand.parse_text car.brand,
    Member.parse_name car.engine, optionally_name car.camera, optionally_name car.smartphone,
    optionally_name car.adas⟩

end Sheet

/-- A document whose outline shows the entries of a car is read as that car. -/
theorem Car.ofDocument_of_shows {f : Format} {s : String} {car : Car}
    (h : (f.outline s).Shows car.entries) : ofDocument f s = .ok car := by
  have hread : f.readRecord (Sheet.shape Sheet.rawReaders) s = .ok (Sheet.Raw.ofCar car) :=
    congrArg (Except.mapError _) (Sheet.read_of_shows h)
  rw [ofDocument, hread]
  exact congrArg (Except.mapError _) (Sheet.check_ofCar car)

end Fitout
