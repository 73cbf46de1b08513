import Fitout.Proofs.Car.Changes
import Fitout.Proofs.Document.Agreement

/-!
# Entries that make a car

A car is read from the entries of a record or from the elements of a list if each of these is taken
into a field of its own (`Field.Takes`) and the other fields are optional and absent. In a record
the fields come in any order, in a list in theirs.

The reader goes through the entries with a draft. What it needs of the draft is only which fields
already are those of the car (`Draft.Has`): a value that is taken settles its field and leaves the
others alone (`Draft.has_of_read`). From this both kinds of documents follow by induction
(`readEntries_eq_ok_iff`, `readElements_eq_ok_iff`).

Main statement: `Car.ofDocument_eq_ok_iff`.
-/

namespace Fitout

open Sheet

/-- A value is read and accepted as what a car has in a field. -/
def Field.Takes (n : Node) (car : Car) : Field → Prop
  | .id => checkedReaders.id n = .ok car.id
  | .brand => checkedReaders.brand n = .ok car.brand
  | .engine => checkedReaders.engine n = .ok car.engine
  | .camera => n.optional checkedReaders.camera = .ok car.camera
  | .smartphone => n.optional checkedReaders.smartphone = .ok car.smartphone
  | .adas => n.optional checkedReaders.adas = .ok car.adas

/-- A field that may be left out of a document of a car. -/
def Field.MayMiss (car : Car) (f : Field) : Prop :=
  f.isMandatory = false ∧ car.value? f = none

namespace Sheet

/-- The checked sheet of a car. -/
def Checked.ofCar (car : Car) : Checked where
  id := car.id
  brand := car.brand
  engine := car.engine
  camera := car.camera
  smartphone := car.smartphone
  adas := car.adas

theorem Checked.car_eq_iff {s : Checked} {car : Car} : s.car = car ↔ s = ofCar car := by
  constructor
  · rintro rfl
    rfl
  · rintro rfl
    rfl

/-! ### Drafts -/

/-- A draft already has in a field what a car has there. -/
def Draft.Has (d : CheckedDraft) (car : Car) : Field → Prop
  | .id => d.id = some car.id
  | .brand => d.brand = some car.brand
  | .engine => d.engine = some car.engine
  | .camera => d.camera = car.camera
  | .smartphone => d.smartphone = car.smartphone
  | .adas => d.adas = car.adas

variable {d d' : CheckedDraft} {car : Car} {f : Field} {n : Node} {ending : Ending}

theorem has_start_iff : Draft.Has {} car f ↔ f.MayMiss car := by
  cases f <;> simp [Draft.Has, Field.MayMiss, Field.isMandatory, Car.value?, @eq_comm _ none]

/-- A draft is finished as a car if it has all its fields. -/
theorem finish_eq_ofCar_iff : d.finish = .ok (Checked.ofCar car) ↔ ∀ f, d.Has car f := by
  rw [Draft.finish_eq_ok_iff]
  constructor
  · rintro rfl f
    cases f <;> rfl
  · intro h
    obtain ⟨id, brand, engine, camera, smartphone, adas⟩ := d
    rw [Draft.mk.injEq]
    exact ⟨h .id, h .brand, h .engine, h .camera, h .smartphone, h .adas⟩

theorem close_eq_ofCar_iff {fault : String → Fault} {clean : Bool} :
    (shape checkedReaders).close fault clean d = .ok (Checked.ofCar car) ↔
      clean = true ∧ ∀ f, d.Has car f := by
  rw [Shape.close, Except.bind_eq_ok_iff, ← finish_eq_ofCar_iff]
  simp only [Except.mapError_eq_ok_iff]
  cases clean with
  | false => simp [Fault.unlessClean]
  | true => simp [Fault.unlessClean, shape]

/-- A value that is read settles its field and leaves the others alone. -/
theorem Draft.has_of_read (car : Car) (h : (slot checkedReaders f).read n d = .ok d') :
    (d'.Has car f ↔ f.Takes n car) ∧ ∀ g ≠ f, (d'.Has car g ↔ d.Has car g) := by
  cases f <;> obtain ⟨v, hv, rfl⟩ := Except.map_eq_ok_iff.1 h <;>
    refine ⟨by simp [Draft.Has, Field.Takes, hv], fun g hg ↦ ?_⟩ <;> cases g <;>
    first
    | exact Iff.rfl
    | exact absurd rfl hg

/-- After a value is read, all but some fields are there if they were before, apart from the field
of the value, which takes it. -/
theorem Draft.forall_has_iff (car : Car) (h : (slot checkedReaders f).read n d = .ok d')
    {fs : List Field} (hf : f ∉ fs) :
    (∀ g ∉ fs, d'.Has car g) ↔ f.Takes n car ∧ ∀ g ∉ f :: fs, d.Has car g := by
  obtain ⟨hsettled, hothers⟩ := Draft.has_of_read car h
  simp only [List.mem_cons, not_or]
  constructor
  · intro hhas
    exact ⟨hsettled.1 (hhas f hf), fun g ⟨hne, hg⟩ ↦ (hothers g hne).1 (hhas g hg)⟩
  · rintro ⟨htakes, hhas⟩ g hg
    by_cases hne : g = f
    · exact hne ▸ hsettled.2 htakes
    · exact (hothers g hne).2 (hhas g ⟨hne, hg⟩)

theorem exists_read_of_takes (h : f.Takes n car) (d : CheckedDraft) :
    ∃ d', (slot checkedReaders f).read n d = .ok d' := by
  cases f <;> exact ⟨_, congrArg (Except.map _) h⟩

/-! ### Records -/

/-- One more entry of a record: its key is the name of a field and new, and the field takes its
value. -/
theorem readEntries_cons_eq_ok_iff {I B E C S A : Type} (r : Readers I B E C S A) {e : Entry}
    {es : List Entry} {seen : List String} {d : Draft I B E C S A} {s : Sheet I B E C S A} :
    (shape r).readEntries ending (e :: es) seen d = .ok s ↔
      ∃ f d', e.key = .ok (Field.name f) ∧ f.name ∉ seen ∧ (slot r f).read e.value d = .ok d' ∧
        (shape r).readEntries ending es (f.name :: seen) d' = .ok s := by
  constructor
  · intro h
    rw [Shape.readEntries, Except.bind_eq_ok_iff] at h
    obtain ⟨key, hkey, h⟩ := h
    rw [find?_slots] at h
    rcases hfind : Field.all.find? (·.name == key) with - | f
    · rw [hfind] at h
      cases h
    · obtain rfl : f.name = key := by simpa using List.find?_some hfind
      rw [hfind] at h
      dsimp only [Option.map_some] at h
      split at h
      next => cases h
      next hnew =>
        obtain ⟨d', hread, hrest⟩ := Except.bind_eq_ok_iff.1 h
        exact ⟨f, d', hkey, by simpa using hnew, hread, hrest⟩
  · rintro ⟨f, d', hkey, hnew, hread, hrest⟩
    have hseen : seen.contains f.name = false := by simpa using hnew
    simp only [Shape.readEntries, hkey, find?_slot, hseen, hread, bind, Except.bind]
    exact hrest

/-- A record is read as a car if its entries are taken into fields of their own and the draft has
the other fields. -/
theorem readEntries_eq_ok_iff {es : List Entry} {seen : List String} :
    (shape checkedReaders).readEntries ending es seen d = .ok (Checked.ofCar car) ↔
      ending = .closed true ∧ ∃ fs : List Field,
        List.Forall₂ (fun e f ↦ e.key = .ok f.name ∧ f.Takes e.value car) es fs ∧ fs.Nodup ∧
          (∀ f ∈ fs, f.name ∉ seen) ∧ ∀ f ∉ fs, d.Has car f := by
  -- The seen keys are those of the entries before, and the draft has their fields.
  induction es generalizing seen d with
  | nil =>
    have hend : (shape checkedReaders).readEntries ending [] seen d = .ok (Checked.ofCar car) ↔
        ending = .closed true ∧ ∀ f, d.Has car f := by
      rcases ending with - | clean
      · simp [Shape.readEntries]
      · rw [Shape.readEntries, close_eq_ofCar_iff, Ending.closed.injEq]
    rw [hend]
    constructor
    · rintro ⟨hclosed, hhas⟩
      exact ⟨hclosed, [], .nil, .nil, List.forall_mem_nil _, fun f _ ↦ hhas f⟩
    · rintro ⟨hclosed, _, ⟨⟩, -, -, hhas⟩
      exact ⟨hclosed, fun f ↦ hhas f List.not_mem_nil⟩
  | cons e es ih =>
    simp only [readEntries_cons_eq_ok_iff, ih]
    constructor
    · rintro ⟨f, d', hkey, hnew, hread, hclosed, fs, htaken, hdistinct, hseen, hhas⟩
      have hf : f ∉ fs := fun hmem ↦ hseen f hmem List.mem_cons_self
      obtain ⟨htakes, hhas⟩ := (Draft.forall_has_iff car hread hf).1 hhas
      refine ⟨hclosed, f :: fs, .cons ⟨hkey, htakes⟩ htaken, List.nodup_cons.2 ⟨hf, hdistinct⟩,
        List.forall_mem_cons.2 ⟨hnew, fun g hg hmem ↦ ?_⟩, hhas⟩
      exact hseen g hg (List.mem_cons_of_mem _ hmem)
    · rintro ⟨hclosed, _, htaken, hdistinct, hseen, hhas⟩
      obtain ⟨f, fs, ⟨hkey, htakes⟩, hrest, rfl⟩ := List.forall₂_cons_left_iff.1 htaken
      obtain ⟨hf, hdistinct⟩ := List.nodup_cons.1 hdistinct
      obtain ⟨hnew, hseen⟩ := List.forall_mem_cons.1 hseen
      obtain ⟨d', hread⟩ := exists_read_of_takes htakes d
      refine ⟨f, d', hkey, hnew, hread, hclosed, fs, hrest, hdistinct, fun g hg hmem ↦ ?_,
        (Draft.forall_has_iff car hread hf).2 ⟨htakes, hhas⟩⟩
      rcases List.mem_cons.1 hmem with hname | hmem
      · exact hf (Field.name_injective hname ▸ hg)
      · exact hseen g hg hmem

/-! ### Lists -/

/-- A list is read as a car if its elements are taken into the first fields and the draft has the
other ones. -/
theorem readElements_eq_ok_iff {fields : List Field} (hfields : fields.Nodup) {ns : List Node} :
    (shape checkedReaders).readElements ending (fields.map (slot checkedReaders)) ns d =
        .ok (Checked.ofCar car) ↔
      ending = .closed true ∧ ∃ fs, fs <+: fields ∧
        List.Forall₂ (fun n f ↦ Field.Takes n car f) ns fs ∧ ∀ f ∉ fs, d.Has car f := by
  induction ns generalizing fields d with
  | nil =>
    have hend : (shape checkedReaders).readElements ending (fields.map (slot checkedReaders)) [] d =
        .ok (Checked.ofCar car) ↔ ending = .closed true ∧ ∀ f, d.Has car f := by
      rw [Shape.readElements.eq_def]
      rcases ending with - | clean
      · cases fields <;> simp
      · cases fields <;> simp [close_eq_ofCar_iff]
    rw [hend]
    constructor
    · rintro ⟨hclosed, hhas⟩
      exact ⟨hclosed, [], List.nil_prefix, .nil, fun f _ ↦ hhas f⟩
    · rintro ⟨hclosed, _, -, ⟨⟩, hhas⟩
      exact ⟨hclosed, fun f ↦ hhas f List.not_mem_nil⟩
  | cons n ns ih =>
    cases fields with
    | nil =>
      constructor
      · intro h
        cases h
      · rintro ⟨-, _, hfront, htaken, -⟩
        cases List.prefix_nil.1 hfront
        cases htaken
    | cons f fields =>
      obtain ⟨hnew, hfields⟩ := List.nodup_cons.1 hfields
      show ((slot checkedReaders f).read n d >>= _) = _ ↔ _
      simp only [Except.bind_eq_ok_iff, ih hfields]
      constructor
      · rintro ⟨d', hread, hclosed, fs, hfront, htaken, hhas⟩
        have hf : f ∉ fs := fun hmem ↦ hnew (hfront.subset hmem)
        obtain ⟨htakes, hhas⟩ := (Draft.forall_has_iff car hread hf).1 hhas
        exact ⟨hclosed, f :: fs, List.cons_prefix_cons.2 ⟨rfl, hfront⟩, .cons htakes htaken, hhas⟩
      · rintro ⟨hclosed, _, hfront, htaken, hhas⟩
        obtain ⟨g, fs, htakes, hrest, rfl⟩ := List.forall₂_cons_left_iff.1 htaken
        obtain ⟨rfl, hfs⟩ := List.cons_prefix_cons.1 hfront
        have hf : g ∉ fs := fun hmem ↦ hnew (hfs.subset hmem)
        obtain ⟨d', hread⟩ := exists_read_of_takes htakes d
        exact ⟨d', hread, hclosed, fs, hfs, hrest,
          (Draft.forall_has_iff car hread hf).2 ⟨htakes, hhas⟩⟩

end Sheet

/-! ### Documents -/

/-- An outline that makes a car: what stands in it is taken into fields, and the other fields may
miss. -/
inductive Outline.Makes : Outline → Car → Prop
  /-- The entries of a record are taken into the fields of their keys, each into its own. -/
  | record {car : Car} {es : List Entry} {fs : List Field}
      (htaken : List.Forall₂ (fun e f ↦ e.key = .ok f.name ∧ f.Takes e.value car) es fs)
      (hdistinct : fs.Nodup) (hmissing : ∀ f ∉ fs, f.MayMiss car) :
      Makes (.record es (.closed true)) car
  /-- The elements of a list are taken into the fields in their order. -/
  | list {car : Car} {ns : List Node} {fs : List Field} (hfront : fs <+: Field.all)
      (htaken : List.Forall₂ (fun n f ↦ Field.Takes n car f) ns fs)
      (hmissing : ∀ f ∉ fs, f.MayMiss car) :
      Makes (.list ns (.closed true)) car

/-- A document is read as a checked sheet if its outline makes the car. -/
theorem Sheet.read_eq_ok_iff {o : Outline} {car : Car} :
    (shape checkedReaders).read o = .ok (Checked.ofCar car) ↔ o.Makes car := by
  constructor
  · intro h
    rcases o with ⟨es, ending⟩ | ⟨ns, ending⟩ | ⟨value, clean⟩ | ⟨value, clean⟩ | -
    · obtain ⟨rfl, fs, htaken, hdistinct, -, hmissing⟩ := readEntries_eq_ok_iff.1 h
      exact .record htaken hdistinct fun f hf ↦ has_start_iff.1 (hmissing f hf)
    · have hall : Field.all.Nodup := by decide
      obtain ⟨rfl, fs, hfront, htaken, hmissing⟩ := (readElements_eq_ok_iff hall).1 h
      exact .list hfront htaken fun f hf ↦ has_start_iff.1 (hmissing f hf)
    · cases h
    · -- A record without entries has no mandatory fields.
      obtain ⟨-, fs, htaken, -, -, hmissing⟩ := readEntries_eq_ok_iff.1 h
      cases htaken
      cases hmissing .id List.not_mem_nil
    · cases h
  · rintro (⟨htaken, hdistinct, hmissing⟩ | ⟨hfront, htaken, hmissing⟩)
    · exact readEntries_eq_ok_iff.2 ⟨rfl, _, htaken, hdistinct, fun _ _ ↦ List.not_mem_nil,
        fun f hf ↦ has_start_iff.2 (hmissing f hf)⟩
    · exact (readElements_eq_ok_iff (by decide)).2 ⟨rfl, _, hfront, htaken,
        fun f hf ↦ has_start_iff.2 (hmissing f hf)⟩

/-- A document is read as a car if its outline makes the car. -/
theorem Car.ofDocument_eq_ok_iff {f : Format} {s : String} {car : Car} :
    ofDocument f s = .ok car ↔ (f.outline s).Makes car := by
  rw [← Sheet.read_eq_ok_iff, ofDocument, Format.readRecord]
  have hread := Sheet.read_agrees (f.outline s)
  generalize (Sheet.shape Sheet.rawReaders).read (f.outline s) = x,
    (Sheet.shape Sheet.checkedReaders).read (f.outline s) = y at hread
  cases hread with
  | @accepted s s' h =>
    rw [Except.ok.injEq, ← Sheet.Checked.car_eq_iff]
    simp [Except.mapError, bind, Except.bind, h]
  | refused h r => simp [Except.mapError, bind, Except.bind, h]
  | fault e => simp [Except.mapError, bind, Except.bind]
  | earlier e r => simp [Except.mapError, bind, Except.bind]

end Fitout
