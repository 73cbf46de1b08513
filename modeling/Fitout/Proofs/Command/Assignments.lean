import Fitout.Command.Assignment
import Fitout.Proofs.Car.Changes
import Mathlib.Data.List.Perm.Basic

/-!
# Assignments

An assignment asks for a change of the field that its name denotes (`Assignment.Asks`), or of none.
What comes of it is what comes of the change (`Assignment.apply_of_asks`); so assignments that are
made one after the other leave in each field what the last of them asks for
(`Car.lastWins_of_assign`), and two that are about different fields may change places
(`Assignment.apply_comm`).

The fields of a car can be written as assignments. These are read back as they were written
(`Assignment.parse_written`), and in any order they turn whatever car into this one
(`Car.becomes_of_perm`), unless its brand is a lone tilde, which would be read as absence.
-/

namespace Fitout

/-! ### Names of fields -/

/-- The field of a name is the one whose name is left when blanks are trimmed and capital letters of
ASCII are made small. -/
theorem Field.ofName?_eq_some_iff {s : String} {f : Field} :
    ofName? s = some f ↔ (Text.trimChars s.toList).map Char.toLower = f.name.toList := by
  constructor
  · intro h
    rw [ofName?] at h
    have hname := List.find?_some h
    rw [beq_iff_eq] at hname
    exact hname.symm
  · intro h
    rw [ofName?, h]
    cases f <;> decide

namespace Assignment

/-! ### What an assignment asks for -/

/-- The name under which an assignment addresses its field. -/
def name : Assignment → String
  | set field _ => field
  | unset field => field

/-- The text that an assignment sets its field to, unless it makes it absent. -/
def text? : Assignment → Option String
  | set _ value => some value
  | unset _ => none

/-- An assignment asks for a change: its name is that of the field, but for blanks around it and
capital letters. -/
structure Asks (a : Assignment) (c : Change) : Prop where
  /-- The name denotes the field. -/
  name : (Text.trimChars a.name.toList).map Char.toLower = c.field.name.toList
  /-- The text is that of the assignment. -/
  text : c.text? = a.text?

/-- An assignment is acceptable on its own if it asks for a change that is. -/
def IsAcceptable (a : Assignment) : Prop :=
  ∃ c, a.Asks c ∧ c.isAcceptable = true

variable {a b : Assignment} {c d : Change} {car mid after : Car}

/-- An assignment asks for one change at most. -/
theorem Asks.unique (hc : a.Asks c) (hd : a.Asks d) : d = c := by
  have hfield : Field.ofName? a.name = some c.field := Field.ofName?_eq_some_iff.2 hc.name
  rw [Field.ofName?_eq_some_iff.2 hd.name] at hfield
  obtain ⟨f, text⟩ := c
  obtain ⟨g, text'⟩ := d
  rw [Change.mk.injEq]
  exact ⟨Option.some.inj hfield, hd.text.trans hc.text.symm⟩

theorem asks_iff : a.Asks c ↔ Field.ofName? a.name = some c.field ∧ c.text? = a.text? := by
  rw [Field.ofName?_eq_some_iff]
  exact ⟨fun h ↦ ⟨h.name, h.text⟩, fun h ↦ ⟨h.1, h.2⟩⟩

/-- An assignment does to a car what the change does that it asks for. -/
theorem apply_of_asks (h : a.Asks c) (car : Car) :
    a.apply car = (car.change c).mapError .rejected := by
  obtain ⟨f, text⟩ := c
  obtain ⟨hname, rfl⟩ := asks_iff.1 h
  cases a with
  | set name value =>
    have hname : Field.ofName? name = some f := hname
    show car.setNamed name value = _
    rw [Car.setNamed, Car.fieldNamed, hname]
    rfl
  | unset name =>
    have hname : Field.ofName? name = some f := hname
    show car.unsetNamed name = _
    rw [Car.unsetNamed, Car.fieldNamed, hname]
    rfl

/-- An assignment that asks for no change is refused for its name. -/
theorem apply_of_not_asks (h : ∀ c, ¬ a.Asks c) (car : Car) :
    a.apply car = .error (.unknownField (Text.trim a.name)) := by
  have hname : Field.ofName? a.name = none := by
    rcases hfield : Field.ofName? a.name with - | f
    · rfl
    · exact absurd (asks_iff.2 ⟨hfield, rfl⟩) (h ⟨f, a.text?⟩)
  cases a with
  | set name value =>
    have hname : Field.ofName? name = none := hname
    show car.setNamed name value = _
    rw [Car.setNamed, Car.fieldNamed, hname]
    rfl
  | unset name =>
    have hname : Field.ofName? name = none := hname
    show car.unsetNamed name = _
    rw [Car.unsetNamed, Car.fieldNamed, hname]
    rfl

/-- An assignment succeeds by the change that it asks for. -/
theorem exists_of_apply (h : a.apply car = .ok after) :
    ∃ c, a.Asks c ∧ (∀ d, a.Asks d → d = c) ∧ car.change c = .ok after := by
  by_cases hasks : ∃ c, a.Asks c
  · obtain ⟨c, hc⟩ := hasks
    rw [apply_of_asks hc, Except.mapError_eq_ok_iff] at h
    exact ⟨c, hc, fun d hd ↦ hc.unique hd, h⟩
  · rw [apply_of_not_asks (not_exists.1 hasks)] at h
    cases h

theorem IsAcceptable.exists_apply (h : a.IsAcceptable) (car : Car) :
    ∃ after, a.apply car = .ok after := by
  obtain ⟨c, hasks, hc⟩ := h
  obtain ⟨after, hafter⟩ := Change.exists_change_iff.2 hc
  exact ⟨after, by rw [apply_of_asks hasks, Except.mapError_eq_ok_iff]; exact hafter⟩

/-- Why an assignment is refused, whatever the car: its name is not that of a field, or the change
that it asks for is refused in the name of the field. -/
inductive RefusedWith (a : Assignment) : Error → Prop
  /-- The name is not that of a field. -/
  | unknown (h : ∀ c, ¬ a.Asks c) : RefusedWith a (.unknownField (Text.trim a.name))
  /-- The change is refused. -/
  | rejected {c : Change} {r : Rejection} (h : a.Asks c) (hfield : r.field = c.field.name)
      (hchange : ∀ car : Car, car.change c = .error r) : RefusedWith a (.rejected r)

theorem RefusedWith.apply {e : Error} (h : a.RefusedWith e) (car : Car) :
    a.apply car = .error e := by
  cases h with
  | unknown h => exact apply_of_not_asks h car
  | rejected h _ hchange =>
    rw [apply_of_asks h, hchange car]
    rfl

/-- An assignment that is not acceptable is refused. -/
theorem exists_refusedWith (h : ¬ a.IsAcceptable) (car : Car) : ∃ e, a.RefusedWith e := by
  by_cases hasks : ∃ c, a.Asks c
  · obtain ⟨c, hc⟩ := hasks
    have hrefused : c.isAcceptable = false :=
      Bool.eq_false_iff.2 fun haccepted ↦ h ⟨c, hc, haccepted⟩
    obtain ⟨r, hfield, hchange⟩ := Change.exists_refusal hrefused car
    exact ⟨_, .rejected hc hfield hchange⟩
  · exact ⟨_, .unknown (not_exists.1 hasks)⟩

/-- Some assignment is not acceptable, and the first that is not is refused with an error. -/
def FirstRefused (as : List Assignment) (e : Error) : Prop :=
  ∃ before a later, as = before ++ a :: later ∧ (∀ b ∈ before, b.IsAcceptable) ∧
    ¬ a.IsAcceptable ∧ a.RefusedWith e

/-- Assignments are all acceptable, or there is a first that is not. -/
theorem exists_firstRefused_or (as : List Assignment) (car : Car) :
    (∃ e, FirstRefused as e) ∨ ∀ a ∈ as, a.IsAcceptable := by
  induction as with
  | nil => exact .inr nofun
  | cons a as ih =>
    by_cases ha : a.IsAcceptable
    · rcases ih with ⟨e, before, b, later, rfl, hbefore, hb⟩ | hall
      · exact .inl ⟨e, a :: before, b, later, rfl, List.forall_mem_cons.2 ⟨ha, hbefore⟩, hb⟩
      · exact .inr (List.forall_mem_cons.2 ⟨ha, hall⟩)
    · obtain ⟨e, he⟩ := exists_refusedWith ha car
      exact .inl ⟨e, [], a, as, rfl, nofun, ha, he⟩

/-- Assignments that are about different fields may change places. -/
theorem apply_comm (hc : a.Asks c) (hd : b.Asks d) (hne : c.field ≠ d.field)
    (ha : a.apply car = .ok mid) (hb : b.apply mid = .ok after) :
    ∃ mid', b.apply car = .ok mid' ∧ a.apply mid' = .ok after := by
  simp only [apply_of_asks hc, apply_of_asks hd, Except.mapError_eq_ok_iff] at ha hb ⊢
  exact Car.change_comm hne ha hb

end Assignment

/-! ### Runs of assignments -/

namespace Car

variable {car after : Car}

/-- Assignments leave in each field what the last of them asks for. -/
theorem lastWins_of_assign {as : List Assignment} (h : car.assign as = .ok after) :
    LastWins Assignment.Asks as car after :=
  @lastWins_of_foldlM _ _ Assignment.apply _ (fun hstep ↦ Assignment.exists_of_apply hstep) _ _ _ h

theorem exists_assign {as : List Assignment} (h : ∀ a ∈ as, a.IsAcceptable) (car : Car) :
    ∃ after, car.assign as = .ok after :=
  Except.exists_foldlM_eq_ok (fun a ha c ↦ (h a ha).exists_apply c) car

/-- Assignments end with the first of them that is refused. -/
theorem assign_of_firstRefused {as : List Assignment} {e : Error}
    (h : Assignment.FirstRefused as e) (car : Car) : car.assign as = .error e := by
  obtain ⟨before, a, later, rfl, hbefore, -, ha⟩ := h
  obtain ⟨mid, hmid⟩ := exists_assign hbefore car
  exact Except.foldlM_eq_error_iff.2 ⟨before, a, later, mid, rfl, hmid, ha.apply mid⟩

/-- Two assignments that follow each other may change places if they are about different fields. -/
theorem assign_swap {before later : List Assignment} {a b : Assignment} {c d : Change}
    (hc : a.Asks c) (hd : b.Asks d) (hne : c.field ≠ d.field)
    (h : car.assign (before ++ a :: b :: later) = .ok after) :
    car.assign (before ++ b :: a :: later) = .ok after := by
  simp only [assign, List.foldlM_append, List.foldlM_cons, Except.bind_eq_ok_iff] at h ⊢
  obtain ⟨start, hstart, mid, hmid, next, hnext, hafter⟩ := h
  obtain ⟨mid', hmid', hnext'⟩ := Assignment.apply_comm hc hd hne hmid hnext
  exact ⟨start, hstart, mid', hmid', next, hnext', hafter⟩

/-- The texts are assignments, and one after the other they lead from a car to another. -/
def Becomes (car : Car) (texts : List String) (after : Car) : Prop :=
  ∃ assignments, texts.mapM Assignment.parse = .ok assignments ∧
    car.assign assignments = .ok after

/-- Assignments may be made in two parts. -/
theorem becomes_append_iff {texts more : List String} :
    car.Becomes (texts ++ more) after ↔ ∃ mid, car.Becomes texts mid ∧ mid.Becomes more after := by
  simp only [Becomes, List.mapM_append, Except.bind_eq_ok_iff]
  constructor
  · rintro ⟨_, ⟨as, has, bs, hbs, heq⟩, hassign⟩
    cases heq
    rw [assign, List.foldlM_append, Except.bind_eq_ok_iff] at hassign
    obtain ⟨mid, hmid, hafter⟩ := hassign
    exact ⟨mid, ⟨as, has, hmid⟩, bs, hbs, hafter⟩
  · rintro ⟨mid, ⟨as, has, hmid⟩, bs, hbs, hafter⟩
    refine ⟨as ++ bs, ⟨as, has, bs, hbs, rfl⟩, ?_⟩
    rw [assign, List.foldlM_append, Except.bind_eq_ok_iff]
    exact ⟨mid, hmid, hafter⟩

end Car

/-! ### Written assignments -/

namespace Assignment

/-- An assignment as an argument states it. -/
def written (a : Assignment) : String :=
  a.name ++ "=" ++ a.text?.getD ""

/-- A text that an assignment can set a field to: it has no blanks around it and does not read as
absence. -/
def IsValue (s : String) : Prop :=
  Text.trimChars s.toList = s.toList ∧ s ≠ "" ∧ s ≠ "~"

instance : DecidablePred IsValue :=
  fun s ↦ inferInstanceAs (Decidable (Text.trimChars s.toList = s.toList ∧ s ≠ "" ∧ s ≠ "~"))

/-- An assignment that can be written: the name is not empty, has no blanks around it and no equals
sign, and the text is a value. -/
structure IsWritable (a : Assignment) : Prop where
  /-- There is a name. -/
  nonempty : a.name.toList ≠ []
  /-- No blanks stand around the name. -/
  trimmed : Text.trimChars a.name.toList = a.name.toList
  /-- The first equals sign is the one behind the name. -/
  unparted : '=' ∉ a.name.toList
  /-- What the field is set to is a value. -/
  text : ∀ s, a.text? = some s → IsValue s

/-- The parts of an argument are those before and after its first equals sign. -/
theorem parse_append {name : List Char} (hname : '=' ∉ name) (value : List Char) :
    parse (String.ofList (name ++ '=' :: value)) =
      if (Text.trimChars name).isEmpty then
        .error (.arguments (.noField (String.ofList (name ++ '=' :: value))))
      else if (Text.trimChars value).isEmpty || Text.trimChars value == ['~'] then
        .ok (.unset (String.ofList (Text.trimChars name)))
      else
        .ok (.set (String.ofList (Text.trimChars name)) (String.ofList (Text.trimChars value))) := by
  have hname : ∀ c ∈ name, (c != '=') = true :=
    fun c hc ↦ bne_iff_ne.2 fun heq ↦ hname (heq ▸ hc)
  have hdrop : (name ++ '=' :: value).dropWhile (· != '=') = '=' :: value := by
    rw [List.dropWhile_append_of_pos hname, List.dropWhile_cons_of_neg (by decide)]
  have htake : (name ++ '=' :: value).takeWhile (· != '=') = name := by
    rw [List.takeWhile_append_of_pos hname, List.takeWhile_cons_of_neg (by decide),
      List.append_nil]
  rw [parse, String.toList_ofList, hdrop, htake]

/-- A written assignment is read back. -/
theorem parse_written {a : Assignment} (h : a.IsWritable) : parse a.written = .ok a := by
  have hwritten : a.written = String.ofList (a.name.toList ++ '=' :: (a.text?.getD "").toList) := by
    rw [written, ← String.toList_inj]
    simp
  rw [hwritten, parse_append h.unparted, h.trimmed, if_neg (by simpa using h.nonempty)]
  cases a with
  | unset name => simp [text?, Text.trimChars, Text.trimStart, Text.trimEnd, Assignment.name]
  | set name value =>
    obtain ⟨htrim, hne, htilde⟩ := h.text value rfl
    have htilde : value.toList ≠ ['~'] := fun heq ↦ htilde (by rw [← String.toList_inj, heq]; rfl)
    rw [text?, Option.getD_some, htrim, if_neg (by simpa using ⟨hne, htilde⟩)]
    simp [Assignment.name]

end Assignment

/-! ### Cars as assignments -/

namespace Car

variable {c d : Car} {f : Field}

/-- The assignment that gives a field what a car has there. -/
def assignment (d : Car) (f : Field) : Assignment :=
  match d.value? f with
  | some v => .set f.name v
  | none => .unset f.name

theorem name_assignment (d : Car) (f : Field) : (d.assignment f).name = f.name := by
  rw [assignment]
  split <;> rfl

theorem text?_assignment (d : Car) (f : Field) : (d.assignment f).text? = d.value? f := by
  rw [assignment]
  split
  next v hv => exact hv.symm
  next hv => exact hv.symm

/-- The values of a car are values of assignments, unless the brand is a lone tilde. -/
theorem isValue_value (hbrand : d.brand.text ≠ "~") {v : String} (h : d.value? f = some v) :
    Assignment.IsValue v := by
  cases f with
  | id =>
    cases h
    have hdigits : (toString d.id).toList = Nat.toDigits 10 d.id.value.toNat :=
      Decimal.toList_write _
    obtain ⟨c, cs, hcs, hc⟩ := Decimal.exists_toDigits_eq_cons d.id.value.toNat
    refine ⟨Decimal.trimChars_write d.id.value.toNat, fun hempty ↦ ?_, fun htilde ↦ ?_⟩
    · rw [hcs, hempty] at hdigits
      cases hdigits
    · rw [hcs, htilde] at hdigits
      obtain ⟨rfl, -⟩ := List.cons.inj hdigits
      exact absurd hc (by decide)
  | brand =>
    cases h
    refine ⟨?_, fun hempty ↦ d.brand.nonempty (by rw [hempty]; rfl), hbrand⟩
    rw [← Text.toList_trim, d.brand.trimmed]
  | engine =>
    cases h
    cases d.engine <;> decide
  | camera | smartphone | adas =>
    obtain ⟨m, -, rfl⟩ := Option.map_eq_some_iff.1 h
    cases m <;> decide

/-- The assignment of a field can be written. -/
theorem isWritable_assignment (hbrand : d.brand.text ≠ "~") (f : Field) :
    (d.assignment f).IsWritable where
  nonempty := by rw [name_assignment]; cases f <;> decide
  trimmed := by rw [name_assignment]; cases f <;> decide
  unparted := by rw [name_assignment]; cases f <;> decide
  text s hs := isValue_value hbrand (text?_assignment d f ▸ hs)

/-- The assignment of a field takes the field over into whatever car. -/
theorem apply_assignment (c d : Car) (f : Field) :
    (d.assignment f).apply c = .ok (c.take d f) := by
  rw [assignment]
  split
  next v hv =>
    show c.setNamed f.name v = _
    rw [setNamed_name, set_value hv]
    rfl
  next hv =>
    show c.unsetNamed f.name = _
    rw [unsetNamed_name, unset_of_absent hv]
    rfl

/-- The texts that state a car field by field, in any order, turn every car into this one. A field
that is absent is stated by an empty text. -/
theorem becomes_of_perm {c d : Car} (hbrand : d.brand.text ≠ "~") {texts : List String}
    (h : texts.Perm (Field.all.map fun f ↦ f.name ++ "=" ++ (d.value? f).getD "")) :
    c.Becomes texts d := by
  let write (f : Field) : String := f.name ++ "=" ++ (d.value? f).getD ""
  obtain ⟨fs, rfl, hfs⟩ : Relation.Comp (· = List.map write ·) List.Perm texts Field.all := by
    rw [List.eq_map_comp_perm write]
    exact h
  have hparse : Assignment.parse ∘ write = fun f ↦ pure (d.assignment f) := by
    funext f
    show Assignment.parse (f.name ++ "=" ++ (d.value? f).getD "") = _
    rw [← name_assignment d, ← text?_assignment]
    exact Assignment.parse_written (isWritable_assignment hbrand f)
  refine ⟨fs.map d.assignment, ?_, ?_⟩
  · rw [List.mapM_map, hparse, List.mapM_pure]
    rfl
  · have htake : fs.foldlM (fun c f ↦ (d.assignment f).apply c) c =
        .ok ((fs.map fun f ↦ f).foldl (·.take d ·) c) :=
      foldlM_take (fun f _ c ↦ apply_assignment c d f) c
    rw [assign, List.foldlM_map, htake, List.map_id']
    exact congrArg Except.ok (foldl_take_eq fun f ↦ .inl (hfs.mem_iff.2 f.mem_all))

/-- A brand that looks like another assignment, a camera that is stated to be none, and an absent
smartphone link. -/
theorem becomes_of_perm_lookalike :
    let c : Car :=
      ⟨⟨7, by decide⟩, ⟨"VW", by decide, by decide, by simp; decide, by decide⟩, .lng, some .rear,
        some .carPlay, none⟩
    let d : Car :=
      ⟨⟨4294967295, by decide⟩, ⟨"id=~ \"", by decide, by decide, by simp; decide, by decide⟩,
        .diesel, some .none, none, some .copilot⟩
    d.brand.text ≠ "~" ∧ c.Becomes ["smartphone=", "brand=id=~ \"", "camera=none", "adas=copilot",
      "id=4294967295", "engine=diesel"] d := by
  intro c d
  exact ⟨by decide, becomes_of_perm (by decide) (by decide)⟩

end Car

end Fitout
