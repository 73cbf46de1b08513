import Fitout.Proofs.Car.Changes
import Fitout.Proofs.Document.RoundTrip
import Fitout.Proofs.Document.Statement
import Fitout.Proofs.Json.Record
import Fitout.Proofs.Yaml.Lines

/-!
# The verdict on a document

A document is judged by the values that it states, and each value as if its field were set by name:
if one of them is refused, the document is refused with the same rejection
(`Sheet.Raw.check_judgedByName`). The identifier makes an exception. It is read as a number and not
as a text, so an integer that does not fit 32 bits is a fault of the document, although setting it
by name is a rejection.

Main statement: `Car.ofDocument_agrees_setNamed`, for objects of JSON and lines of YAML.
-/

namespace Fitout

/-! ### Values by name -/

/-- A value as it is written by name. -/
def Scalar.written : Scalar → String
  | number w => Decimal.write w.toNat
  | text s => s

namespace Literal

/-- A literal is written as its value. -/
theorem written_eq {literal : Literal} {v : Scalar} (h : literal.scalar? = some v) :
    literal.written = v.written := by
  cases literal with
  | integer n =>
    obtain ⟨hn, w, rfl, hw⟩ := scalar?_integer_eq_some h
    show String.ofList ((if n < 0 then ['-'] else []) ++ _) = Decimal.write w.toNat
    rw [if_neg (by omega), hw]
    rfl
  | text s =>
    cases h
    rfl

end Literal

/-- An integer that does not fit 32 bits is no identifier. -/
theorem CarId.parse_written {n : Int} (h : (Literal.integer n).scalar? = none) :
    parse (Literal.integer n).written =
      .error ⟨Field.id.name, .notPositive (Literal.integer n).written⟩ := by
  have hword : Decimal.word? (Text.trimChars (Literal.integer n).written.toList) = none := by
    rcases Literal.scalar?_integer_eq_none_iff.1 h with hneg | hbig
    · -- The sign is no digit, and no blank that would be trimmed.
      have hwritten : (Literal.integer n).written.toList = '-' :: Nat.toDigits 10 n.natAbs := by
        simp [Literal.written, hneg]
      have htrim : Text.trimChars ('-' :: Nat.toDigits 10 n.natAbs) =
          '-' :: Nat.toDigits 10 n.natAbs := by
        refine Text.trimChars_eq_self ?_
        rintro c (_ | ⟨_, hc⟩)
        · decide
        · exact Text.isBlank_of_isDigit (Decimal.isDigit_of_mem_toDigits hc)
      rw [hwritten, htrim]
      simp [Decimal.word?, Decimal.unsigned?, Decimal.natural?]
    · have hwritten : (Literal.integer n).written = Decimal.write n.natAbs := by
        show String.ofList ((if n < 0 then ['-'] else []) ++ _) = _
        rw [if_neg (by omega)]
        rfl
      have hsize : ¬ n.natAbs < UInt32.size := by omega
      rw [hwritten, Decimal.trimChars_write, Decimal.word?, Decimal.unsigned?_write]
      simp [Decimal.fitWord, hsize]
  rw [parse, hword]

/-! ### Sheets -/

namespace Sheet.Raw

variable {s : Raw} {f : Field} {v : Scalar}

/-- Every value of a sheet that passes the check is accepted by name. -/
theorem set_of_check_ok {car : Car} (h : s.check = .ok car) (hv : s.value? f = some v) (c : Car) :
    ∃ after, c.set f v.written = .ok after := by
  obtain ⟨hid, hbrand, hengine, hcamera, hsmartphone, hadas⟩ := check_eq_ok_iff.1 h
  have hstated {α : Type} [Member α] {stated : Option String} {found : Option α}
      (hfound : optionally Member.parse stated = .ok found) (hv : stated.map .text = some v) :
      ∃ m : α, Member.parse v.written = .ok m := by
    obtain ⟨text, rfl, rfl⟩ := Option.map_eq_some_iff.1 hv
    obtain ⟨m, hm, -⟩ := Except.map_eq_ok_iff.1 hfound
    exact ⟨m, hm⟩
  have hmap {α : Type} {x : Except Rejection α} {a : α} {put : α → Car} (hx : x = .ok a) :
      ∃ after, x.map put = .ok after :=
    ⟨put a, Except.map_eq_ok_iff.2 ⟨a, hx, rfl⟩⟩
  cases f with
  | id =>
    cases hv
    exact hmap ((CarId.parse_write s.id).trans hid)
  | brand =>
    cases hv
    exact hmap hbrand
  | engine =>
    cases hv
    exact hmap hengine
  | camera =>
    obtain ⟨m, hm⟩ := hstated hcamera hv
    exact hmap hm
  | smartphone =>
    obtain ⟨m, hm⟩ := hstated hsmartphone hv
    exact hmap hm
  | adas =>
    obtain ⟨m, hm⟩ := hstated hadas hv
    exact hmap hm

theorem value?_of_mem_stated {p : Field × String} (h : p ∈ s.stated) :
    s.value? p.1 = some (.text p.2) := by
  simp only [stated, List.mem_append, Option.mem_toList, Option.map_eq_some_iff] at h
  rcases h with (⟨text, htext, rfl⟩ | ⟨text, htext, rfl⟩) | ⟨text, htext, rfl⟩ <;>
    simp [value?, Draft.value?, htext]

/-- A sheet that does not pass the check has a value that is refused by name in the same way. -/
theorem exists_set_of_check_error {r : Rejection} (h : s.check = .error r) :
    ∃ f v, s.value? f = some v ∧ r.field = f.name ∧ ∀ c : Car, c.set f v.written = .error r := by
  -- The engine is checked first, then the identifier and the brand, then what else is stated.
  rw [check, Except.bind_eq_error_iff] at h
  rcases h with hengine | ⟨engine, -, h⟩
  · exact ⟨.engine, .text s.engine, rfl, Member.field_of_parse_error hengine,
      fun c ↦ Except.map_eq_error_iff.2 hengine⟩
  rw [Except.bind_eq_error_iff] at h
  rcases h with hcreate | ⟨car, -, h⟩
  · rw [Car.create, Except.bind_eq_error_iff] at hcreate
    rcases hcreate with hid | ⟨id, -, hbrand⟩
    · have hid := (CarId.parse_write s.id).trans hid
      exact ⟨.id, .number s.id, rfl, CarId.field_of_parse_error hid,
        fun c ↦ Except.map_eq_error_iff.2 hid⟩
    · rw [Except.bind_eq_error_iff] at hbrand
      rcases hbrand with hbrand | ⟨brand, -, ⟨⟩⟩
      exact ⟨.brand, .text s.brand, rfl, Brand.field_of_parse_error hbrand,
        fun c ↦ Except.map_eq_error_iff.2 hbrand⟩
  · obtain ⟨before, p, later, c', hsplit, -, hset⟩ := Except.foldlM_eq_error_iff.1 h
    have hp : p ∈ s.stated := hsplit ▸ List.mem_append_right before List.mem_cons_self
    exact ⟨p.1, .text p.2, value?_of_mem_stated hp, Car.field_of_set_error hset,
      Car.set_error hset⟩

end Sheet.Raw

/-! ### Documents -/

/-- What is made of a document as updates by name would have it. -/
inductive Car.JudgedByName (fields : List (Field × Literal)) : Except Error Car → Prop
  /-- All the literals are accepted for their fields. -/
  | accepted {car : Car}
      (h : ∀ p ∈ fields, ∀ c : Car, ∃ after, c.setNamed p.1.name p.2.written = .ok after) :
      JudgedByName fields (.ok car)
  /-- One of the literals is refused for its field, in the same way. -/
  | refused {r : Rejection} {p : Field × Literal} (hp : p ∈ fields) (hfield : r.field = p.1.name)
      (h : ∀ c : Car, c.setNamed p.1.name p.2.written = .error (.rejected r)) :
      JudgedByName fields (.error (.rejected r))

/-- A sheet of the values of some literals is checked as updates by name would check them. -/
theorem Sheet.Raw.check_judgedByName {fields : List (Field × Literal)} {s : Raw}
    (hvalues : ∀ p ∈ fields, p.2.scalar? ≠ none)
    (hs : ∀ f v, s.value? f = some v ↔
      ∃ literal, (f, literal) ∈ fields ∧ literal.scalar? = some v) :
    Car.JudgedByName fields (s.check.mapError .rejected) := by
  rcases hcheck : s.check with r | car
  · obtain ⟨f, v, hv, hfield, hset⟩ := exists_set_of_check_error hcheck
    obtain ⟨literal, hmem, hliteral⟩ := (hs f v).1 hv
    rw [← Literal.written_eq hliteral] at hset
    refine .refused hmem hfield fun c ↦ ?_
    rw [Car.setNamed_name, hset c]
    rfl
  · refine .accepted fun p hp c ↦ ?_
    obtain ⟨v, hv⟩ := Option.ne_none_iff_exists'.1 (hvalues p hp)
    obtain ⟨after, hafter⟩ := set_of_check_ok hcheck ((hs p.1 v).2 ⟨p.2, hp, hv⟩) c
    rw [← Literal.written_eq hv] at hafter
    exact ⟨after, by rw [Car.setNamed_name, hafter]; rfl⟩

/-- A document that tells a statement is judged as updates by name would judge it, unless one of
its literals stands for no value; then it is a fault of the document. -/
theorem Car.ofDocument_of_tells {fields : List (Field × Literal)} (hfields : IsStatement fields)
    {f : Format} {s : String} (h : (f.outline s).Tells (IsStatement.named fields)) :
    ((∀ p ∈ fields, p.2.scalar? ≠ none) ∧ JudgedByName fields (ofDocument f s)) ∨
      (∃ p ∈ fields, p.2.scalar? = none) ∧
        ∃ fault, ofDocument f s = .error (.document f fault) := by
  rcases Sheet.read_of_tells hfields h with
    ⟨hvalues, sheet, hread, hsheet⟩ | ⟨hnone, fault, hread⟩
  · refine .inl ⟨hvalues, ?_⟩
    rw [ofDocument, Format.readRecord, hread]
    exact Sheet.Raw.check_judgedByName hvalues hsheet
  · refine .inr ⟨hnone, fault, ?_⟩
    rw [ofDocument, Format.readRecord, hread]
    rfl

/-- The identifier of a statement is its only integer. -/
theorem IsStatement.eq_of_scalar?_eq_none {fields : List (Field × Literal)}
    (hfields : IsStatement fields) {n : Int} (hid : (.id, .integer n) ∈ fields)
    {p : Field × Literal} (hp : p ∈ fields) (hnone : p.2.scalar? = none) :
    p = (.id, .integer n) := by
  obtain ⟨f, literal⟩ := p
  have hsuits := hfields.suits _ hp
  obtain rfl : f = .id := by
    cases literal with
    | integer m => cases f <;> first | rfl | exact hsuits.elim
    | text s => cases hnone
  exact List.inj_on_of_nodup_map hfields.distinct hp hid rfl

/-- A document that states literals under their keys: an object of JSON, or lines of YAML. -/
def Format.Spells : Format → String → List (String × Literal) → Prop
  | yaml, s, fields => Yaml.SpellsLines s.toList fields
  | json, s, fields => Json.Spells s fields

/-- The outline of such a document tells the literals. -/
theorem Format.outline_of_spells {f : Format} {s : String} {fields : List (String × Literal)}
    (h : f.Spells s fields) (hne : fields ≠ []) : (f.outline s).Tells fields := by
  cases f with
  | yaml => exact Yaml.outline_of_spellsLines h hne
  | json => exact Json.outline_of_spells h

/-! ### Agreement with updates by name -/

/-- The mandatory fields make a statement. -/
theorem isStatement_mandatory (n : Int) (brand engine : String) :
    IsStatement [(.id, .integer n), (.brand, .text brand), (.engine, .text engine)] where
  distinct := by
    show [Field.id, .brand, .engine].Nodup
    decide
  mandatory f hf := by
    show f ∈ [Field.id, .brand, .engine]
    revert hf
    cases f <;> decide
  suits := by
    simp only [List.forall_mem_cons]
    exact ⟨trivial, trivial, trivial, nofun⟩

open Json in
/-- An object with a negative identifier. -/
theorem spells_negative : Format.json.Spells
    "\x7b\x22id\x22: -1, \x22brand\x22: \x22VW\x22, \x22engine\x22: \x22lng\x22\x7d"
    (IsStatement.named [(.id, .integer (-1)), (.brand, .text "VW"), (.engine, .text "lng")]) := by
  have hgap : ∀ c ∈ [' '], Json.isBlank c = true := List.all_eq_true.1 (by decide)
  have hnil : ∀ c ∈ [], Json.isBlank c = true := nofun
  have hid := SpellsMember.mk hnil (spellsText_flatMap_escape "id".toList) hnil hgap
    (.integer (-1)) hnil
  have hbrand := SpellsMember.mk hgap (spellsText_flatMap_escape "brand".toList) hnil hgap
    (.text (spellsText_flatMap_escape "VW".toList)) hnil
  have hengine := SpellsMember.mk hgap (spellsText_flatMap_escape "engine".toList) hnil hgap
    (.text (spellsText_flatMap_escape "lng".toList)) hnil
  exact ⟨[], _, [], hnil, hnil, .cons hid (.cons hbrand (.one hengine)), by cbv⟩

open Yaml in
/-- Three lines with an engine that is none. -/
theorem spells_steam : Format.yaml.Spells "id: 7\nbrand: 'VW'\nengine: \x22steam\x22"
    (IsStatement.named [(.id, .integer 7), (.brand, .text "VW"), (.engine, .text "steam")]) := by
  have hbrand : SpellsSingle "VW".toList "VW".toList := by
    refine .plain ?_ ?_ ?_ (.plain ?_ ?_ ?_ .nil) <;> decide
  have hfeed : IsFeed ['\n'] := .inl rfl
  have hlines := SpellsLines.cons Field.id.isKey (.integer 7) hfeed
    (.cons Field.brand.isKey (.single hbrand) hfeed
      (.last Field.engine.isKey (.double (spellsDouble_flatMap_escape "steam".toList))))
  exact hlines

/-- A document that states an identifier of 32 bits is judged as updates by name would judge it. Any
other integer for an identifier is refused as a fault of the document, although an update by name is
refused because of the value. -/
theorem Car.ofDocument_agrees_setNamed {f : Format} {s : String} {fields : List (Field × Literal)}
    {n : Int} (hfields : IsStatement fields) (hs : f.Spells s (IsStatement.named fields))
    (hid : (.id, .integer n) ∈ fields) :
    (0 ≤ n ∧ n < UInt32.size → JudgedByName fields (ofDocument f s)) ∧
      (n < 0 ∨ UInt32.size ≤ n → (∃ fault, ofDocument f s = .error (.document f fault)) ∧
        ∀ car : Car, car.setNamed Field.id.name (Literal.integer n).written = .error
          (.rejected ⟨Field.id.name, .notPositive (Literal.integer n).written⟩)) := by
  have hne : IsStatement.named fields ≠ [] := by
    intro hnil
    rw [IsStatement.named, List.map_eq_nil_iff] at hnil
    exact absurd (hnil ▸ hid) List.not_mem_nil
  have htells := Format.outline_of_spells hs hne
  rcases ofDocument_of_tells hfields htells with ⟨hvalues, hjudged⟩ | ⟨⟨p, hp, hnone⟩, hfault⟩
  · refine ⟨fun _ ↦ hjudged, fun hexceeds ↦ ?_⟩
    exact absurd (Literal.scalar?_integer_eq_none_iff.2 hexceeds) (hvalues _ hid)
  · obtain rfl := hfields.eq_of_scalar?_eq_none hid hp hnone
    refine ⟨fun hfits ↦ ?_, fun _ ↦ ⟨hfault, fun car ↦ ?_⟩⟩
    · have hexceeds := Literal.scalar?_integer_eq_none_iff.1 hnone
      omega
    · rw [setNamed_name, set, CarId.parse_written hnone]
      rfl

/-- An engine that is none is judged as by name, a negative identifier is not. -/
theorem Car.ofDocument_agrees_setNamed_steam_negative :
    JudgedByName [(.id, .integer 7), (.brand, .text "VW"), (.engine, .text "steam")]
        (ofDocument .yaml "id: 7\nbrand: 'VW'\nengine: \x22steam\x22") ∧
      (∃ fault, ofDocument .json
          "\x7b\x22id\x22: -1, \x22brand\x22: \x22VW\x22, \x22engine\x22: \x22lng\x22\x7d" =
        .error (.document .json fault)) ∧
      ∀ car : Car, car.setNamed "id" "-1" = .error (.rejected ⟨"id", .notPositive "-1"⟩) := by
  have hwritten : (Literal.integer (-1)).written = "-1" := by decide
  have hsteam := (ofDocument_agrees_setNamed (isStatement_mandatory 7 "VW" "steam") spells_steam
    List.mem_cons_self).1 (by simp [UInt32.size])
  have hnegative := (ofDocument_agrees_setNamed (isStatement_mandatory (-1) "VW" "lng")
    spells_negative List.mem_cons_self).2 (.inl (by decide))
  rw [hwritten] at hnegative
  exact ⟨hsteam, hnegative⟩

/-- So not every document is judged as updates by name would judge it. -/
theorem Car.not_forall_judgedByName :
    ¬ ∀ (f : Format) (s : String) (fields : List (Field × Literal)), IsStatement fields →
      f.Spells s (IsStatement.named fields) → JudgedByName fields (ofDocument f s) := by
  intro h
  have hjudged := h _ _ _ (isStatement_mandatory (-1) "VW" "lng") spells_negative
  have hfault : ofDocument .json
      "\x7b\x22id\x22: -1, \x22brand\x22: \x22VW\x22, \x22engine\x22: \x22lng\x22\x7d" =
        .error (.document .json .wrongValue) := by rfl
  rw [hfault] at hjudged
  nomatch hjudged

end Fitout
