import Fitout.Proofs.Car.Id
import Fitout.Proofs.Document.Entries
import Fitout.Proofs.Json.Document
import Mathlib.Data.List.Nodup
import Mathlib.Data.List.Perm.Basic

/-!
# JSON documents of cars

Which JSON documents are read as which cars, told by the grammar alone: an object that has the
fields of the car as members, in any order (`IsObjectOf`), or a list of them in the order of
declaration (`IsListOf`). Each value states what the car has in the field (`Value.States`); an
optional field may miss or be null where the car has nothing.

Main statement: `Car.ofDocument_json_iff`.
-/

namespace Fitout

open Json

/-! ### Members of two lists side by side -/

section Forall₂

variable {α β γ : Type} {R : α → β → Prop} {S : β → γ → Prop} {T : α → γ → Prop} {as : List α}
  {bs : List β} {cs : List γ}

theorem forall₂_trans (hT : ∀ a b c, R a b → S b c → T a c) (hR : List.Forall₂ R as bs)
    (hS : List.Forall₂ S bs cs) : List.Forall₂ T as cs := by
  induction hR generalizing cs with
  | nil =>
    cases hS
    exact .nil
  | cons hab _ ih =>
    cases hS with
    | cons hbc hS => exact .cons (hT _ _ _ hab hbc) (ih hS)

theorem exists_forall₂_iff : (∃ bs, List.Forall₂ R as bs) ↔ ∀ a ∈ as, ∃ b, R a b := by
  induction as with
  | nil => exact ⟨fun _ ↦ nofun, fun _ ↦ ⟨[], .nil⟩⟩
  | cons a as ih =>
    rw [List.forall_mem_cons, ← ih]
    constructor
    · rintro ⟨_, hR⟩
      obtain ⟨b, bs, hab, hR, -⟩ := List.forall₂_cons_left_iff.1 hR
      exact ⟨⟨b, hab⟩, bs, hR⟩
    · rintro ⟨⟨b, hab⟩, bs, hR⟩
      exact ⟨b :: bs, .cons hab hR⟩

end Forall₂

/-! ### What a value states -/

namespace Json

section Node

variable {v : Value} {n : Node} {s : String} {w : UInt32}

theorem text_eq_ok_iff (hn : v.node? = some n) : n.text = .ok s ↔ v = .text s := by
  cases v with
  | null | bool =>
    cases hn
    exact ⟨nofun, nofun⟩
  | number m =>
    obtain ⟨k, -, rfl⟩ := Option.map_eq_some_iff.1 hn
    cases k <;> exact ⟨nofun, nofun⟩
  | text s' =>
    cases hn
    simp [textNode]
  | list | object => cases hn

theorem absent_eq (hn : v.node? = some n) :
    v = .null ∧ n.absent = .ok true ∨ v ≠ .null ∧ n.absent = .ok false := by
  cases v with
  | null =>
    cases hn
    exact .inl ⟨rfl, rfl⟩
  | bool | text =>
    cases hn
    exact .inr ⟨nofun, rfl⟩
  | number m =>
    obtain ⟨k, -, rfl⟩ := Option.map_eq_some_iff.1 hn
    cases k <;> exact .inr ⟨nofun, rfl⟩
  | list | object => cases hn

/-- A value is a 32-bit number if it is written without a sign, a fraction and an exponent and
fits. -/
theorem number_eq_ok_iff (hn : v.node? = some n) :
    n.number = .ok w ↔
      ∃ m, v = .number m ∧ m.IsPlain ∧ Nat.ofDigitChars 10 m.whole 0 = w.toNat := by
  cases v with
  | null | bool | text =>
    cases hn
    exact ⟨nofun, nofun⟩
  | number m =>
    obtain ⟨k, hk, rfl⟩ := Option.map_eq_some_iff.1 hn
    constructor
    · intro h
      cases k with
      | unsigned k =>
        obtain ⟨hplain, hvalue, -⟩ := Numeral.number?_eq_unsigned_iff.1 hk
        rcases hfit : Decimal.fitWord k with - | w'
        · simp [Number.node, hfit] at h
        · obtain rfl : w' = w := by simpa [Number.node, hfit] using h
          exact ⟨m, rfl, hplain, hvalue.trans (Decimal.fitWord_eq_some_iff.1 hfit)⟩
      | negative | fractional => cases h
    · rintro ⟨_, ⟨⟩, hplain, hvalue⟩
      rw [Numeral.number?_eq_unsigned_iff.2 ⟨hplain, hvalue, toNat_le_wordMax w⟩] at hk
      cases hk
      simp [Number.node]
  | list | object => cases hn

/-- A text that is checked. -/
theorem checking_text_eq_ok_iff {α : Type} {parse : String → Except Rejection α} {a : α}
    (hn : v.node? = some n) :
    Sheet.checking Node.text parse n = .ok a ↔ ∃ s, v = .text s ∧ parse s = .ok a := by
  rw [Sheet.checking_eq_ok_iff]
  exact exists_congr fun s ↦ and_congr_left fun _ ↦ text_eq_ok_iff hn

/-- An optional value that is checked: null, or a text that is accepted. -/
theorem optional_text_eq_ok_iff {α : Type} {parse : String → Except Rejection α} {o : Option α}
    (hn : v.node? = some n) :
    n.optional (Sheet.checking Node.text parse) = .ok o ↔
      v = .null ∧ o = none ∨ ∃ s m, v = .text s ∧ parse s = .ok m ∧ o = some m := by
  rw [Node.optional]
  rcases absent_eq hn with ⟨rfl, habsent⟩ | ⟨hnull, habsent⟩
  · rw [habsent]
    show Except.ok none = .ok o ↔ _
    simp [eq_comm]
  · rw [habsent]
    show (Sheet.checking Node.text parse n).map some = .ok o ↔ _
    simp only [Except.map_eq_ok_iff, checking_text_eq_ok_iff hn, hnull, false_and, false_or]
    constructor
    · rintro ⟨m, ⟨s, hs, hm⟩, rfl⟩
      exact ⟨s, m, hs, hm, rfl⟩
    · rintro ⟨s, m, hs, hm, rfl⟩
      exact ⟨m, ⟨s, hs, hm⟩, rfl⟩

end Node

/-- What a value states of a car. -/
inductive Value.States (car : Car) : Value → Field → Prop
  /-- The identifier, as an integer without a sign, a fraction and an exponent. -/
  | id {m : Numeral} (hplain : m.IsPlain)
      (hvalue : Nat.ofDigitChars 10 m.whole 0 = car.id.value.toNat) : States car (.number m) .id
  /-- Another field, as a text that is accepted for it. -/
  | text {f : Field} {s : String} (hf : f ≠ .id) (h : f.Reads s car) : States car (.text s) f
  /-- An optional field that is absent. -/
  | null {f : Field} (h : f.MayMiss car) : States car .null f

/-- What a value is to a reader of fields is taken into a field if the value states it. -/
theorem takes_iff_states {v : Value} {n : Node} {car : Car} {f : Field} (hn : v.node? = some n) :
    f.Takes n car ↔ v.States car f := by
  cases f with
  | id =>
    show Sheet.checking Node.number CarId.ofWord n = .ok car.id ↔ _
    simp only [Sheet.checking_eq_ok_iff, CarId.ofWord_eq_ok_iff, exists_eq_right,
      number_eq_ok_iff hn]
    constructor
    · rintro ⟨m, rfl, hplain, hvalue⟩
      exact .id hplain hvalue
    · rintro (⟨hplain, hvalue⟩ | ⟨hf⟩ | ⟨hmandatory, -⟩)
      · exact ⟨_, rfl, hplain, hvalue⟩
      · exact absurd rfl hf
      · cases hmandatory
  | brand | engine =>
    refine (checking_text_eq_ok_iff hn).trans ?_
    constructor
    · rintro ⟨s, rfl, hs⟩
      exact .text nofun hs
    · rintro (_ | ⟨-, hs⟩ | ⟨hmandatory, -⟩)
      · exact ⟨_, rfl, hs⟩
      · cases hmandatory
  | camera | smartphone | adas =>
    refine (optional_text_eq_ok_iff hn).trans ?_
    constructor
    · rintro (⟨rfl, habsent⟩ | ⟨s, m, rfl, hs, hm⟩)
      · exact .null ⟨rfl, Option.map_eq_none_iff.2 habsent⟩
      · exact .text nofun ⟨m, hs, hm⟩
    · rintro (_ | ⟨-, m, hs, hm⟩ | ⟨-, habsent⟩)
      · exact .inr ⟨_, m, rfl, hs, hm⟩
      · exact .inl ⟨rfl, Option.map_eq_none_iff.1 habsent⟩

/-- A value that states something is something to a reader of fields. -/
theorem Value.States.exists_node? {v : Value} {car : Car} {f : Field} (h : v.States car f) :
    ∃ n, v.node? = some n := by
  cases h with
  | @id m hplain hvalue =>
    have hnumber := Numeral.number?_eq_unsigned_iff.2 ⟨hplain, hvalue, toNat_le_wordMax _⟩
    exact ⟨_, by rw [Value.node?, hnumber]; rfl⟩
  | text | null => exact ⟨_, rfl⟩

/-! ### Objects and lists of a car -/

/-- The members of an object state a car. -/
structure IsObjectOf (members : List (String × Value)) (car : Car) : Prop where
  /-- No key stands twice. -/
  distinct : (members.map (·.1)).Nodup
  /-- Every key is the name of a field, which the value states. -/
  known : ∀ m ∈ members, ∃ f : Field, m.1 = f.name ∧ m.2.States car f
  /-- A field that is missing may miss. -/
  missing : ∀ f : Field, f.name ∉ members.map (·.1) → f.MayMiss car

/-- The elements of a list state a car. -/
structure IsListOf (vs : List Value) (car : Car) : Prop where
  /-- The mandatory fields are there. -/
  atLeast : 3 ≤ vs.length
  /-- There are no more elements than fields. -/
  atMost : vs.length ≤ 6
  /-- The elements state the fields in their order. -/
  elements : List.Forall₂ (Value.States car) vs (Field.all.take vs.length)
  /-- The fields that are left may miss. -/
  missing : ∀ f ∈ Field.all.drop vs.length, f.MayMiss car

/-- A value describes a car as an object or as a list. -/
def Value.Describes : Value → Car → Prop
  | .object members, car => IsObjectOf members car
  | .list vs, car => IsListOf vs car
  | .null, _ | .bool _, _ | .number _, _ | .text _, _ => False

section Makes

variable {car : Car} {members : List (String × Value)} {es : List Entry} {vs : List Value}
  {ns : List Node}

/-- Keys that are names of fields are distinct if the fields are. -/
theorem map_fst_eq {fs : List Field}
    (h : List.Forall₂ (fun m f ↦ m.1 = Field.name f ∧ Value.States car m.2 f) members fs) :
    members.map (·.1) = fs.map Field.name := by
  rw [← List.forall₂_eq_eq_eq, List.forall₂_map_left_iff, List.forall₂_map_right_iff]
  exact h.imp fun _ _ hm ↦ hm.1

/-- Entries make a car if the members that they are of state it. -/
theorem makes_record_iff (hes : List.Forall₂ IsEntryOf members es) :
    (Outline.record es (.closed true)).Makes car ↔ IsObjectOf members car := by
  constructor
  · rintro (⟨htaken, hdistinct, hmissing⟩ | _)
    rename_i fs
    have hfs : List.Forall₂ (fun m f ↦ m.1 = Field.name f ∧ Value.States car m.2 f) members fs :=
      forall₂_trans (fun m e f hm he ↦
        ⟨Except.ok.inj (hm.1.symm.trans he.1), (takes_iff_states hm.2).1 he.2⟩) hes htaken
    have hkeys := map_fst_eq hfs
    refine ⟨hkeys ▸ (List.nodup_map_iff Field.name_injective).2 hdistinct,
      exists_forall₂_iff.1 ⟨fs, hfs⟩, fun f hf ↦ hmissing f fun hmem ↦ hf ?_⟩
    rw [hkeys]
    exact List.mem_map_of_mem hmem
  · intro h
    obtain ⟨fs, hfs⟩ := exists_forall₂_iff.2 h.known
    have hkeys := map_fst_eq hfs
    have hdistinct : fs.Nodup := (List.nodup_map_iff Field.name_injective).1 (hkeys ▸ h.distinct)
    refine .record (forall₂_trans (fun e m f hm hf ↦ ?_) hes.flip hfs) hdistinct
      fun f hf ↦ h.missing f fun hmem ↦ hf ?_
    · exact ⟨hf.1 ▸ hm.1, (takes_iff_states hm.2).2 hf.2⟩
    · rw [hkeys] at hmem
      exact (List.mem_map_of_injective Field.name_injective).1 hmem

/-- Elements make a car if the values that they are of state it in the order of the fields. -/
theorem makes_list_iff (hns : List.Forall₂ (fun v n ↦ Value.node? v = some n) vs ns) :
    (Outline.list ns (.closed true)).Makes car ↔ IsListOf vs car := by
  constructor
  · rintro (_ | ⟨hfront, htaken, hmissing⟩)
    rename_i fs
    have hstates (v : Value) (n : Node) (f : Field) (hv : v.node? = some n)
        (hn : f.Takes n car) : v.States car f := (takes_iff_states hv).1 hn
    have helements : List.Forall₂ (Value.States car) vs fs := forall₂_trans hstates hns htaken
    have hlength : vs.length = fs.length := helements.length_eq
    have hfs : fs = Field.all.take vs.length := hlength ▸ List.prefix_iff_eq_take.1 hfront
    have hall : Field.all.Nodup := by decide
    refine ⟨Nat.not_lt.1 fun hshort ↦ ?_, hlength ▸ hfront.length_le, hfs ▸ helements,
      fun f hf ↦ hmissing f fun hmem ↦ ?_⟩
    · -- The engine is the third field and cannot miss.
      have hengine : ∀ k < 3, Field.engine ∉ Field.all.take k := by decide
      cases (hmissing .engine (hfs ▸ hengine _ hshort)).1
    · exact List.disjoint_take_drop hall le_rfl (hfs ▸ hmem) hf
  · rintro ⟨-, -, helements, hmissing⟩
    have htakes (n : Node) (v : Value) (f : Field) (hv : v.node? = some n)
        (hf : v.States car f) : f.Takes n car := (takes_iff_states hv).2 hf
    refine .list (List.take_prefix _ _) (forall₂_trans htakes hns.flip helements)
      fun f hf ↦ hmissing f ?_
    have hmem := f.mem_all
    rw [← List.take_append_drop vs.length Field.all, List.mem_append] at hmem
    exact hmem.resolve_left hf

/-- The values of a car are something to a reader of fields. -/
theorem IsListOf.exists_nodes (h : IsListOf vs car) :
    ∃ ns, List.Forall₂ (fun v n ↦ Value.node? v = some n) vs ns :=
  exists_forall₂_iff.2 fun v hv ↦ by
    obtain ⟨f, hstates⟩ := exists_forall₂_iff.1 ⟨_, h.elements⟩ v hv
    exact hstates.exists_node?

/-- The values of a car are something to a reader of fields. -/
theorem IsObjectOf.exists_entries (h : IsObjectOf members car) :
    ∃ es, List.Forall₂ IsEntryOf members es :=
  exists_forall₂_iff.2 fun m hm ↦ by
    obtain ⟨f, -, hstates⟩ := h.known m hm
    obtain ⟨n, hn⟩ := hstates.exists_node?
    exact ⟨⟨.ok m.1, n⟩, rfl, hn⟩

end Makes

/-! ### The order of members, and nulls -/

/-- Members that are some others in any order, and nulls for fields that these leave out. -/
def AddsNulls (base members : List (String × Value)) : Prop :=
  ∃ nulls : List Field, nulls.Nodup ∧ (∀ f ∈ nulls, f.name ∉ base.map (·.1)) ∧
    members.Perm (nulls.map (fun f ↦ (f.name, .null)) ++ base)

namespace IsObjectOf

variable {car : Car} {members members' : List (String × Value)}

theorem perm (h : IsObjectOf members car) (hperm : members.Perm members') :
    IsObjectOf members' car where
  distinct := (hperm.map _).nodup_iff.1 h.distinct
  known m hm := h.known m (hperm.mem_iff.2 hm)
  missing f hf := h.missing f fun hmem ↦ hf ((hperm.map _).mem_iff.1 hmem)

/-- Fields that are missing may as well be null. -/
theorem append_nulls_iff {nulls : List Field} (hdistinct : nulls.Nodup)
    (hnew : ∀ f ∈ nulls, f.name ∉ members.map (·.1)) :
    IsObjectOf (nulls.map (fun f ↦ (f.name, .null)) ++ members) car ↔ IsObjectOf members car := by
  have hkeys : (nulls.map (fun f ↦ (f.name, Value.null)) ++ members).map (·.1) =
      nulls.map Field.name ++ members.map (·.1) := by
    simp [Function.comp_def]
  constructor
  · intro h
    refine ⟨?_, fun m hm ↦ h.known m (List.mem_append_right _ hm), fun f hf ↦ ?_⟩
    · have hall := h.distinct
      rw [hkeys] at hall
      exact hall.of_append_right
    · by_cases hnull : f ∈ nulls
      · obtain ⟨g, hname, hstates⟩ :=
          h.known (f.name, .null) (List.mem_append_left _ (List.mem_map.2 ⟨f, hnull, rfl⟩))
        obtain rfl := Field.name_injective hname
        cases hstates with
        | null hmissing => exact hmissing
      · refine h.missing f ?_
        rw [hkeys, List.mem_append, not_or]
        exact ⟨fun hmem ↦ hnull ((List.mem_map_of_injective Field.name_injective).1 hmem), hf⟩
  · intro h
    refine ⟨?_, fun m hm ↦ ?_, fun f hf ↦ ?_⟩
    · rw [hkeys]
      refine ((List.nodup_map_iff Field.name_injective).2 hdistinct).append h.distinct ?_
      intro name hname hmem
      obtain ⟨f, hf, rfl⟩ := List.mem_map.1 hname
      exact hnew f hf hmem
    · rcases List.mem_append.1 hm with hnull | hm
      · obtain ⟨f, hf, rfl⟩ := List.mem_map.1 hnull
        exact ⟨f, rfl, .null (h.missing f (hnew f hf))⟩
      · exact h.known m hm
    · rw [hkeys, List.mem_append, not_or] at hf
      exact h.missing f hf.2

end IsObjectOf

/-- Neither the order of members nor nulls make a difference. -/
theorem AddsNulls.isObjectOf_iff {base members : List (String × Value)}
    (h : AddsNulls base members) (car : Car) : IsObjectOf members car ↔ IsObjectOf base car := by
  obtain ⟨nulls, hdistinct, hnew, hperm⟩ := h
  rw [← IsObjectOf.append_nulls_iff hdistinct hnew]
  exact ⟨fun h ↦ h.perm hperm, fun h ↦ h.perm hperm.symm⟩

end Json

/-! ### Documents -/

namespace Car

variable {s : String} {car : Car}

/-- A document that is an object is read as a car if its members state the car. -/
theorem ofDocument_object_iff {members : List (String × Value)}
    (h : SpellsDocument s (.object members)) :
    ofDocument .json s = .ok car ↔ IsObjectOf members car := by
  rw [ofDocument_eq_ok_iff]
  constructor
  · intro hmakes
    generalize houtline : Format.json.outline s = o at hmakes
    cases hmakes with
    | record htaken hdistinct hmissing =>
      exact (makes_record_iff (h.forall₂_of_outline houtline)).1 (.record htaken hdistinct hmissing)
    | list => exact absurd houtline (h.outline_ne_list _ _)
  · intro hmembers
    obtain ⟨es, hes⟩ := hmembers.exists_entries
    rw [show Format.json.outline s = .record es (.closed true) from
      outline_eq_record_iff.2 ⟨members, h, hes⟩]
    exact (makes_record_iff hes).2 hmembers

/-- **Which JSON documents are cars.** A document is read as a car if it spells an object or a list
that describes the car, and in no other case. So it does not matter in which order the members of
an object stand, and which of the missing fields are null. -/
theorem ofDocument_json_iff (s : String) (car : Car) :
    (ofDocument .json s = .ok car ↔ ∃ v, SpellsDocument s v ∧ v.Describes car) ∧
      ∀ (s' : String) (base members members' : List (String × Value)),
        SpellsDocument s (.object members) → SpellsDocument s' (.object members') →
        AddsNulls base members → AddsNulls base members' →
        (ofDocument .json s' = .ok car ↔ ofDocument .json s = .ok car) := by
  constructor
  · constructor
    · rw [ofDocument_eq_ok_iff]
      intro hmakes
      generalize houtline : Format.json.outline s = o at hmakes
      cases hmakes with
      | record htaken hdistinct hmissing =>
        obtain ⟨members, hdocument, hes⟩ := outline_eq_record_iff.1 houtline
        exact ⟨.object members, hdocument,
          (makes_record_iff hes).1 (.record htaken hdistinct hmissing)⟩
      | list hfront htaken hmissing =>
        obtain ⟨vs, hdocument, hns⟩ := outline_eq_list_iff.1 houtline
        exact ⟨.list vs, hdocument, (makes_list_iff hns).1 (.list hfront htaken hmissing)⟩
    · rintro ⟨v, hdocument, hdescribes⟩
      cases v with
      | null | bool | number | text => cases hdescribes
      | object members => exact (ofDocument_object_iff hdocument).2 hdescribes
      | list vs =>
        obtain ⟨ns, hns⟩ := IsListOf.exists_nodes hdescribes
        rw [ofDocument_eq_ok_iff, show Format.json.outline s = .list ns (.closed true) from
          outline_eq_list_iff.2 ⟨vs, hdocument, hns⟩]
        exact (makes_list_iff hns).2 hdescribes
  · intro s' base members members' hs hs' hmembers hmembers'
    rw [ofDocument_object_iff hs, ofDocument_object_iff hs', hmembers.isObjectOf_iff,
      hmembers'.isObjectOf_iff]

/-- A null is added, and the members stand the other way round. -/
theorem ofDocument_json_iff_reverse :
    let s := "\x7b\"id\":7,\"brand\":\"VW\",\"engine\":\"lng\"\x7d"
    let s' := " \x7b\"camera\":null,\"engine\":\"lng\",\"brand\":\"VW\",\"id\":7\x7d"
    ∃ car, ofDocument .json s = .ok car ∧ ofDocument .json s' = .ok car := by
  intro s s'
  let car : Car :=
    ⟨⟨7, by decide⟩, ⟨"VW", by decide, by decide, by simp; decide, by decide⟩, .lng, none, none,
      none⟩
  have hcar : ofDocument .json s = .ok car := by decide +kernel
  have hdigits : IsDigits ['7'] := ⟨by decide, List.all_eq_true.1 (by decide)⟩
  have hseven : SpellsNumeral _ ⟨false, ['7'], none, none⟩ :=
    .mk hdigits (.inr (by decide)) .absent .absent
  have hid := spellsEntry_writeString "id" (.number hseven)
  have hbrand := spellsEntry_writeString "brand" (spellsValue_writeString "VW")
  have hengine := spellsEntry_writeString "engine" (spellsValue_writeString "lng")
  have hcamera := spellsEntry_writeString "camera" .null
  let members : List (String × Value) :=
    [("id", .number ⟨false, ['7'], none, none⟩), ("brand", .text "VW"), ("engine", .text "lng")]
  have hs : SpellsDocument s (.object members) :=
    spellsDocument_iff.2 ⟨[], _, [], nofun, .object (.cons hid (.cons hbrand (.one hengine))),
      nofun, by decide⟩
  have hs' : SpellsDocument s' (.object (("camera", .null) :: members.reverse)) :=
    spellsDocument_iff.2 ⟨[' '], _, [], List.all_eq_true.1 (by decide),
      .object (.cons hcamera (.cons hengine (.cons hbrand (.one hid)))), nofun, by decide⟩
  exact ⟨car, hcar, ((ofDocument_json_iff s car).2 s' members _ _ hs hs' ⟨[], .nil, nofun, .refl _⟩
    ⟨[.camera], by decide, by decide, .cons _ members.reverse_perm⟩).2 hcar⟩

end Car

end Fitout
