import Fitout.Proofs.Document.Agreement
import Fitout.Proofs.Document.Told
import Mathlib.Data.List.Nodup

/-!
# Statements about cars

A document that states a literal of the right kind for each of some fields, among them the
mandatory ones, is read as the raw sheet of their values, in whatever order they come
(`Sheet.read_of_tells`); or it is not read at all, because one of the literals stands for no value.
-/

namespace Fitout

/-! ### Reading what is told -/

/-- The kind of literal that a field takes: an integer for the identifier, else a text. -/
def Field.Suits : Field → Literal → Prop
  | .id, .integer _ => True
  | .id, .text _ | _, .integer _ => False
  | _, .text _ => True

namespace Sheet

/-- The value of a field of a draft, if it has one yet. -/
def Draft.value? (d : RawDraft) : Field → Option Scalar
  | .id => d.id.map .number
  | .brand => d.brand.map .text
  | .engine => d.engine.map .text
  | .camera => d.camera.map .text
  | .smartphone => d.smartphone.map .text
  | .adas => d.adas.map .text

/-- A draft with the value of one more field. -/
def Draft.put (d : RawDraft) (f : Field) (literal : Literal) : RawDraft :=
  match f, literal.scalar? with
  | .id, some (.number w) => { d with id := some w }
  | .brand, some (.text s) => { d with brand := some s }
  | .engine, some (.text s) => { d with engine := some s }
  | .camera, some (.text s) => { d with camera := some s }
  | .smartphone, some (.text s) => { d with smartphone := some s }
  | .adas, some (.text s) => { d with adas := some s }
  | _, _ => d

variable {f g : Field} {literal : Literal} {v : Scalar}

/-- The kind of a value is that of its literal. -/
theorem exists_of_suits (hsuits : f.Suits literal) (hv : literal.scalar? = some v) :
    (f = .id ∧ ∃ w, v = .number w) ∨ (f ≠ .id ∧ ∃ s, v = .text s) := by
  cases literal with
  | integer n =>
    simp only [Literal.scalar?, Option.ite_none_right_eq_some, Option.map_eq_some_iff] at hv
    obtain ⟨-, w, -, rfl⟩ := hv
    cases f <;> first | exact .inl ⟨rfl, w, rfl⟩ | exact hsuits.elim
  | text s =>
    cases hv
    cases f <;> first | exact hsuits.elim | exact .inr ⟨by decide, s, rfl⟩

/-- What is put into a draft is there, and the other fields are as before. -/
theorem value?_put (hsuits : f.Suits literal) (hv : literal.scalar? = some v) (d : RawDraft)
    (g : Field) : (d.put f literal).value? g = if g = f then some v else d.value? g := by
  obtain ⟨rfl, w, rfl⟩ | ⟨hne, s, rfl⟩ := exists_of_suits hsuits hv
  · cases g <;> simp [Draft.put, hv, Draft.value?]
  · cases f <;> first | exact absurd rfl hne | (cases g <;> simp [Draft.put, hv, Draft.value?])

/-- A value is read into its field. -/
theorem read_slot {n : Node} (hsuits : f.Suits literal) (hv : literal.scalar? = some v)
    (hn : n.Shows v) (d : RawDraft) : (slot rawReaders f).read n d = .ok (d.put f literal) := by
  obtain ⟨rfl, w, rfl⟩ | ⟨hne, s, rfl⟩ := exists_of_suits hsuits hv
  · simp [slot, rawReaders, hn.1, Except.map, Draft.put, hv]
  · have hoptional : n.optional Node.text = .ok (some s) := Node.optional_eq_some hn.1 hn.2
    cases f <;>
      first
      | exact absurd rfl hne
      | simp [slot, rawReaders, hn.1, hoptional, Except.map, Draft.put, hv]

/-- No value is read for an integer that does not fit. -/
theorem read_slot_error {n : Node} {fault : Fault} (hsuits : f.Suits literal)
    (hliteral : literal.scalar? = none) (hn : n.number = .error fault) (d : RawDraft) :
    (slot rawReaders f).read n d = .error fault := by
  cases literal with
  | integer k => cases f <;> first | exact hsuits.elim | simp [slot, rawReaders, hn, Except.map]
  | text s => cases hliteral

/-! ### All fields -/

section Entries

variable {fields : List (Field × Literal)} {es : List Entry} {ending : Ending}
  {seen : List String} {d : RawDraft}

/-- The draft of some fields. -/
def Draft.putAll (d : RawDraft) (fields : List (Field × Literal)) : RawDraft :=
  fields.foldl (fun d p ↦ d.put p.1 p.2) d

/-- A record that tells some literals is read as the draft of their values; it is not read if one
of them stands for no value. -/
theorem readEntries_of_told (h : Told es ending (fields.map fun p ↦ (p.1.name, p.2)))
    (hsuits : ∀ p ∈ fields, p.1.Suits p.2) (hnew : (fields.map (·.1.name) ++ seen).Nodup) :
    ((∀ p ∈ fields, p.2.scalar? ≠ none) ∧
        (shape rawReaders).readEntries ending es seen d =
          (shape rawReaders).close .missingField true (d.putAll fields)) ∨
      (∃ p ∈ fields, p.2.scalar? = none) ∧
        ∃ fault, (shape rawReaders).readEntries ending es seen d = .error fault := by
  -- The fields that were read are in the draft and among the seen keys, so both vary.
  induction fields generalizing es seen d with
  | nil =>
    cases h
    exact .inl ⟨nofun, rfl⟩
  | cons field fields ih =>
    obtain ⟨f, literal⟩ := field
    have hsuit : f.Suits literal := hsuits _ List.mem_cons_self
    have hnew' : f.name ∉ fields.map (·.1.name) ++ seen := (List.nodup_cons.1 hnew).1
    cases h with
    | @cons e es _ _ _ v _ hv he hrest =>
      have hstep : (shape rawReaders).readEntries ending (e :: es) seen d =
          (shape rawReaders).readEntries ending es (f.name :: seen) (d.put f literal) :=
        Shape.readEntries_cons _ _ he.key (find?_slot _ f)
          (fun hmem ↦ hnew' (List.mem_append_right _ hmem)) (read_slot hsuit hv he.value d)
      have hrest := ih (d := d.put f literal) hrest
        (fun p hp ↦ hsuits p (List.mem_cons_of_mem _ hp)) (List.nodup_middle.2 hnew)
      rw [hstep]
      refine hrest.imp ?_ ?_
      · rintro ⟨hvalues, hread⟩
        exact ⟨by simpa [hv] using hvalues, hread⟩
      · rintro ⟨⟨p, hp, hnone⟩, hread⟩
        exact ⟨⟨p, List.mem_cons_of_mem _ hp, hnone⟩, hread⟩
    | @stop e es _ _ _ fault _ hliteral hkey hnumber =>
      refine .inr ⟨⟨_, List.mem_cons_self, hliteral⟩, fault, ?_⟩
      have hread := read_slot_error hsuit hliteral hnumber d
      have hseen : seen.contains f.name = false := by
        simpa using fun hmem ↦ hnew' (List.mem_append_right _ hmem)
      simp only [Shape.readEntries, hkey, find?_slot, hseen, hread, bind, Except.bind]
      rfl

/-- The draft of some fields has their values, if no field comes twice. -/
theorem value?_putAll (hsuits : ∀ p ∈ fields, p.1.Suits p.2)
    (hvalues : ∀ p ∈ fields, p.2.scalar? ≠ none) (hdistinct : (fields.map (·.1)).Nodup)
    (d : RawDraft) (g : Field) :
    (d.putAll fields).value? g = some v ↔
      (∃ literal, (g, literal) ∈ fields ∧ literal.scalar? = some v) ∨
        g ∉ fields.map (·.1) ∧ d.value? g = some v := by
  induction fields generalizing d with
  | nil => simp [Draft.putAll]
  | cons field fields ih =>
    obtain ⟨f, literal⟩ := field
    obtain ⟨hnew, hdistinct⟩ := List.nodup_cons.1 hdistinct
    obtain ⟨w, hw⟩ := Option.ne_none_iff_exists'.1 (hvalues (f, literal) List.mem_cons_self)
    have hput := value?_put (hsuits (f, literal) List.mem_cons_self) hw d g
    have hrest := ih (fun p hp ↦ hsuits p (List.mem_cons_of_mem _ hp))
      (fun p hp ↦ hvalues p (List.mem_cons_of_mem _ hp)) hdistinct (d.put f literal)
    show ((d.put f literal).putAll fields).value? g = some v ↔ _
    rw [hrest, hput]
    by_cases hg : g = f
    · subst hg
      have hnone (literal' : Literal) : (g, literal') ∉ fields := fun hmem ↦
        hnew (List.mem_map.2 ⟨_, hmem, rfl⟩)
      simp [hnone, hw, hnew]
    · simp [hg]

end Entries

/-! ### Sheets -/

/-- The value of a field of a raw sheet, if it is stated. -/
def Raw.value? (s : Raw) (f : Field) : Option Scalar :=
  Draft.value? ⟨some s.id, some s.brand, some s.engine, s.camera, s.smartphone, s.adas⟩ f

/-- A draft that has its mandatory fields becomes a sheet of the same values. -/
theorem exists_finish {d : RawDraft} (h : ∀ f : Field, f.isMandatory = true → d.value? f ≠ none) :
    ∃ s : Raw, d.finish = .ok s ∧ s.value? = d.value? := by
  obtain ⟨id, brand, engine, camera, smartphone, adas⟩ := d
  have hid := h .id rfl
  have hbrand := h .brand rfl
  have hengine := h .engine rfl
  simp only [Draft.value?, ne_eq, Option.map_eq_none_iff] at hid hbrand hengine
  obtain ⟨id, rfl⟩ := Option.ne_none_iff_exists'.1 hid
  obtain ⟨brand, rfl⟩ := Option.ne_none_iff_exists'.1 hbrand
  obtain ⟨engine, rfl⟩ := Option.ne_none_iff_exists'.1 hengine
  exact ⟨⟨id, brand, engine, camera, smartphone, adas⟩, rfl, rfl⟩

end Sheet

/-! ### Statements -/

/-- What a document states about a car: a literal of the right kind for each of some fields, among
them the mandatory ones. -/
structure IsStatement (fields : List (Field × Literal)) : Prop where
  /-- No field comes twice. -/
  distinct : (fields.map (·.1)).Nodup
  /-- No mandatory field is missing. -/
  mandatory : ∀ f : Field, f.isMandatory = true → f ∈ fields.map (·.1)
  /-- The identifier is an integer, and the other fields are texts. -/
  suits : ∀ p ∈ fields, p.1.Suits p.2

/-- What a document states, by the names of the fields. -/
def IsStatement.named (fields : List (Field × Literal)) : List (String × Literal) :=
  fields.map fun p ↦ (p.1.name, p.2)

/-- An outline that tells a statement is read as the sheet of its values, unless one of its literals
stands for no value. -/
theorem Sheet.read_of_tells {fields : List (Field × Literal)} (hfields : IsStatement fields)
    {o : Outline} (h : o.Tells (IsStatement.named fields)) :
    ((∀ p ∈ fields, p.2.scalar? ≠ none) ∧ ∃ s : Raw, (shape rawReaders).read o = .ok s ∧
        ∀ f v, s.value? f = some v ↔ ∃ literal, (f, literal) ∈ fields ∧ literal.scalar? = some v) ∨
      (∃ p ∈ fields, p.2.scalar? = none) ∧ ∃ fault, (shape rawReaders).read o = .error fault := by
  obtain ⟨entries, ending, rfl, htold⟩ := h
  have hdistinct : (fields.map (fun p : Field × Literal ↦ p.1.name) ++ []).Nodup := by
    simpa [Function.comp_def] using hfields.distinct.map Field.name_injective
  refine (readEntries_of_told (d := {}) htold hfields.suits hdistinct).imp_left ?_
  rintro ⟨hvalues, hread⟩
  have hvalue (f : Field) (v : Scalar) :
      (Draft.putAll {} fields).value? f = some v ↔
        ∃ literal, (f, literal) ∈ fields ∧ literal.scalar? = some v := by
    have hempty : Draft.value? {} f = none := by cases f <;> rfl
    simp [value?_putAll hfields.suits hvalues hfields.distinct, hempty]
  obtain ⟨s, hfinish, hs⟩ : ∃ s : Raw, (Draft.putAll {} fields).finish = .ok s ∧
      s.value? = (Draft.putAll {} fields).value? := by
    refine exists_finish fun f hf ↦ ?_
    obtain ⟨⟨_, literal⟩, hmem, rfl⟩ := List.mem_map.1 (hfields.mandatory f hf)
    obtain ⟨v, hv⟩ := Option.ne_none_iff_exists'.1 (hvalues _ hmem)
    rw [(hvalue _ v).2 ⟨literal, hmem, hv⟩]
    exact Option.some_ne_none v
  refine ⟨hvalues, s, ?_, fun f v ↦ by rw [hs, hvalue]⟩
  show (shape rawReaders).readEntries ending entries [] {} = _
  rw [hread, Shape.close]
  show ((Draft.putAll {} fields).finish.mapError _ >>= _) = _
  rw [hfinish]
  rfl

end Fitout
