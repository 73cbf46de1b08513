import Fitout.Profile
import Fitout.Proofs.Text.Decimal
import Mathlib.Data.List.Forall2

/-!
# Calls on a profile

A call on a profile does all that it asks for, or it fails and does nothing (`Profile.answer_eq`).
Which of the two is a matter of the call alone, and so is the error (`Profile.Call.answer_cases`).

Hence the calls of a run that fail may be left out of it (`Profile.after_succeeded`), and each field
ends with what the last call gives that is about it (`Profile.lastGiven_after`).
-/

namespace Fitout.Profile

/-! ### Fields -/

/-- The name that denotes a field. -/
def Field.label : Field → String
  | id => "id"
  | name => "name"

/-- What a field holds if it is present. -/
def Field.Value : Field → Type
  | id => UInt32
  | name => String

/-- A text stands for a value of a field. A name stands for itself, with the blanks around it. -/
def Field.Reads (text : String) : (f : Field) → f.Value → Prop
  | .id, w => Decimal.States text.toList (UInt32.toNat w)
  | .name, s => s = text

/-- What a profile has in a field. -/
def get (p : Profile) : (f : Field) → Option f.Value
  | .id => p.id
  | .name => p.name

/-- A profile with another content of one field. -/
def put (p : Profile) : (f : Field) → Option f.Value → Profile
  | .id, v => { p with id := v }
  | .name, v => { p with name := v }

variable {name value : String} {f g : Field}

@[simp]
theorem get_put (p : Profile) (f : Field) (v : Option f.Value) : (p.put f v).get f = v := by
  cases f <;> rfl

theorem get_put_of_ne (h : f ≠ g) (p : Profile) (v : Option g.Value) :
    (p.put g v).get f = p.get f := by
  cases f <;> cases g <;>
    first
    | rfl
    | exact absurd rfl h

theorem get_merge (base update : Profile) (f : Field) :
    (base.merge update).get f = (update.get f <|> base.get f) := by
  cases f <;> rfl

theorem Field.label_injective (h : f.label = g.label) : f = g := by
  cases f <;> cases g <;>
    first
    | rfl
    | exact absurd h (by decide)

/-- A text stands for one value at most. -/
theorem Field.Reads.unique {v w : f.Value} (hv : f.Reads value v) (hw : f.Reads value w) :
    v = w := by
  cases f with
  | id => exact UInt32.toNat_inj.1 (Decimal.States.unique hv hw)
  | name => exact Eq.trans hv (Eq.symm hw)

/-! ### Updates by name -/

theorem fieldNamed_eq_ok_iff : fieldNamed name = .ok f ↔ Text.trim name = f.label := by
  rw [fieldNamed]
  split_ifs with hid hname
  · rw [hid]
    cases f <;> simp [Field.label]
  · rw [hname]
    cases f <;> simp [Field.label]
  · cases f
    · exact iff_of_false nofun hid
    · exact iff_of_false nofun hname

theorem fieldNamed_eq_error (h : ∀ f : Field, Text.trim name ≠ f.label) :
    fieldNamed name = .error (.unknownField (Text.trim name)) := by
  rw [fieldNamed]
  exact (if_neg (h .id)).trans (if_neg (h .name))

theorem parseNumber_eq_ok {w : UInt32} (h : Decimal.States value.toList w.toNat) :
    parseNumber value = .ok w := by
  rw [parseNumber, Decimal.word?_trimChars_eq_some_iff.2 h]

theorem parseNumber_eq_error (h : ∀ n, Decimal.States value.toList n → 4294967295 < n) :
    parseNumber value = .error ⟨"id", .notNatural value⟩ := by
  rw [parseNumber, Decimal.word?_trimChars_eq_none_iff.2 h]

/-- A name of a field and a text for it put a value into the field. -/
theorem setNamed_eq (hname : Text.trim name = f.label) {v : f.Value} (hv : f.Reads value v)
    (p : Profile) : p.setNamed name value = .ok (p.put f (some v)) := by
  rw [setNamed, fieldNamed_eq_ok_iff.2 hname]
  cases f with
  | id =>
    show ((parseNumber value).map _).mapError _ = _
    rw [parseNumber_eq_ok hv]
    rfl
  | name =>
    obtain rfl : v = value := hv
    rfl

theorem unsetNamed_eq (hname : Text.trim name = f.label) (p : Profile) :
    p.unsetNamed name = .ok (p.put f none) := by
  rw [unsetNamed, fieldNamed_eq_ok_iff.2 hname]
  cases f <;> rfl

/-! ### One call -/

namespace Call

/-- The name by which a call addresses a field. -/
def name? : Call → Option String
  | set name _ => some name
  | unset name => some name
  | merge _ => none

/-- A call that succeeds gives a field a content, unless it is not about this field. -/
inductive Gives : Call → (f : Field) → Option f.Value → Prop
  /-- A field is set by its name. -/
  | set {name value : String} {f : Field} {v : f.Value} (hname : Text.trim name = f.label)
      (hv : f.Reads value v) : Gives (set name value) f (some v)
  /-- A field is made absent by its name. -/
  | unset {name : String} {f : Field} (hname : Text.trim name = f.label) :
      Gives (unset name) f none
  /-- A field is present in an update. -/
  | merge {update : Profile} {f : Field} {v : f.Value} (hv : update.get f = some v) :
      Gives (merge update) f (some v)

/-- Whether a call is acceptable: the name must denote a field, but for blanks around it, and a
number must be stated that fits 32 bits. -/
def IsAcceptable : Call → Prop
  | set name value => Text.trim name = "name" ∨
      Text.trim name = "id" ∧ ∃ n ≤ 4294967295, Decimal.States value.toList n
  | unset name => Text.trim name = "name" ∨ Text.trim name = "id"
  | merge _ => True

/-- Why a call is refused. -/
inductive RefusedWith : Call → Error → Prop
  /-- The name, without blanks around it, is not that of a field. -/
  | unknown {c : Call} {name : String} (h : c.name? = some name)
      (hname : Text.trim name ≠ "id" ∧ Text.trim name ≠ "name") :
      RefusedWith c (.unknownField (Text.trim name))
  /-- No number is stated that fits 32 bits. -/
  | number {name value : String} (hname : Text.trim name = "id")
      (hvalue : ∀ n, Decimal.States value.toList n → 4294967295 < n) :
      RefusedWith (.set name value) (.rejected ⟨"id", .notNatural value⟩)

/-- What a call leaves: fields with what it gives them, and the others as they were. -/
structure Leaves (c : Call) (p q : Profile) : Prop where
  /-- What is given is there. -/
  given : ∀ {f : Field} {v : Option f.Value}, c.Gives f v → q.get f = v
  /-- What is not given is kept. -/
  kept : ∀ f : Field, (∀ v, ¬ c.Gives f v) → q.get f = p.get f

/-- The profile that a call asks for. -/
def update (p : Profile) : Call → Except Error Profile
  | set name value => p.setNamed name value
  | unset name => p.unsetNamed name
  | merge update => .ok (p.merge update)

end Call

/-- A call that fails has changed nothing before. -/
theorem answer_eq (p : Profile) (c : Call) :
    p.answer c = match c.update p with
      | .ok q => (.ok (), q)
      | .error e => (.error e, p) := by
  cases c with
  | set name value =>
    simp only [answer, Call.perform, Call.update, setNamed]
    rcases fieldNamed name with e | f
    · rfl
    · cases f
      · rcases parseNumber value with r | n <;> rfl
      · rfl
  | unset name =>
    simp only [answer, Call.perform, Call.update, unsetNamed]
    rcases fieldNamed name with e | f
    · rfl
    · cases f <;> rfl
  | merge update => rfl

/-! ### What a call leaves -/

namespace Call

theorem leaves_set (hname : Text.trim name = f.label) {v : f.Value} (hv : f.Reads value v)
    (p : Profile) : (set name value).Leaves p (p.put f (some v)) where
  given h := by
    cases h with
    | set hname' hv' =>
      obtain rfl := Field.label_injective (hname'.symm.trans hname)
      rw [get_put, hv.unique hv']
  kept g hg := by
    refine get_put_of_ne ?_ p _
    rintro rfl
    exact hg _ (.set hname hv)

theorem leaves_unset (hname : Text.trim name = f.label) (p : Profile) :
    (unset name).Leaves p (p.put f none) where
  given h := by
    cases h with
    | unset hname' =>
      obtain rfl := Field.label_injective (hname'.symm.trans hname)
      rw [get_put]
  kept g hg := by
    refine get_put_of_ne ?_ p _
    rintro rfl
    exact hg _ (.unset hname)

theorem leaves_merge (update p : Profile) : (merge update).Leaves p (p.merge update) where
  given h := by
    cases h with
    | merge hv =>
      rw [get_merge, hv]
      rfl
  kept f hf := by
    rcases hv : update.get f with - | v
    · rw [get_merge, hv]
      rfl
    · exact absurd (.merge hv) (hf (some v))

/-- A value is given by a name of a field and a text that stands for it. -/
theorem isAcceptable_set_iff : (set name value).IsAcceptable ↔
    ∃ f : Field, Text.trim name = f.label ∧ ∃ v, f.Reads value v := by
  have hfits : (∃ n ≤ 4294967295, Decimal.States value.toList n) ↔
      ∃ w : UInt32, Decimal.States value.toList w.toNat := by
    simp only [← Decimal.exists_toNat_eq_iff]
    constructor
    · rintro ⟨_, ⟨w, rfl⟩, hw⟩
      exact ⟨w, hw⟩
    · rintro ⟨w, hw⟩
      exact ⟨_, ⟨w, rfl⟩, hw⟩
  rw [IsAcceptable, hfits]
  constructor
  · rintro (hname | ⟨hname, hw⟩)
    · exact ⟨.name, hname, value, rfl⟩
    · exact ⟨.id, hname, hw⟩
  · rintro ⟨f | f, hname, v, hv⟩
    · exact .inr ⟨hname, v, hv⟩
    · exact .inl hname

theorem isAcceptable_unset_iff :
    (unset name).IsAcceptable ↔ ∃ f : Field, Text.trim name = f.label := by
  constructor
  · rintro (hname | hname)
    · exact ⟨.name, hname⟩
    · exact ⟨.id, hname⟩
  · rintro ⟨f | f, hname⟩
    · exact .inr hname
    · exact .inl hname

/-- Only a call that succeeds gives something. -/
theorem Gives.isAcceptable {c : Call} {v : Option f.Value} (h : c.Gives f v) : c.IsAcceptable := by
  cases h with
  | set hname hv => exact isAcceptable_set_iff.2 ⟨f, hname, _, hv⟩
  | unset hname => exact isAcceptable_unset_iff.2 ⟨f, hname⟩
  | merge hv => trivial

/-! ### Acceptable and refused calls -/

variable {c : Call} {e : Error}

theorem update_unknown (h : c.name? = some name) (hname : ∀ f : Field, Text.trim name ≠ f.label)
    (p : Profile) : c.update p = .error (.unknownField (Text.trim name)) := by
  cases c with
  | set name value =>
    cases h
    rw [update, setNamed, fieldNamed_eq_error hname]
    rfl
  | unset name =>
    cases h
    rw [update, unsetNamed, fieldNamed_eq_error hname]
    rfl
  | merge update => cases h

theorem update_number (hname : Text.trim name = "id")
    (hvalue : ∀ n, Decimal.States value.toList n → 4294967295 < n) (p : Profile) :
    (set name value).update p = .error (.rejected ⟨"id", .notNatural value⟩) := by
  rw [update, setNamed, fieldNamed_eq_ok_iff (f := .id).2 hname]
  show ((parseNumber value).map _).mapError _ = _
  rw [parseNumber_eq_error hvalue]
  rfl

/-- An acceptable call succeeds whatever the profile is. -/
theorem IsAcceptable.exists_answer (h : c.IsAcceptable) (p : Profile) :
    ∃ q, p.answer c = (.ok (), q) ∧ c.Leaves p q := by
  cases c with
  | set name value =>
    obtain ⟨f, hname, v, hv⟩ := isAcceptable_set_iff.1 h
    exact ⟨_, by rw [answer_eq, update, setNamed_eq hname hv], leaves_set hname hv p⟩
  | unset name =>
    obtain ⟨f, hname⟩ := isAcceptable_unset_iff.1 h
    exact ⟨_, by rw [answer_eq, update, unsetNamed_eq hname], leaves_unset hname p⟩
  | merge update => exact ⟨_, answer_eq p _, leaves_merge update p⟩

/-- A call that is refused fails in the same way whatever the profile is, and changes nothing. -/
theorem RefusedWith.answer (h : c.RefusedWith e) (p : Profile) : p.answer c = (.error e, p) := by
  rw [answer_eq]
  cases h with
  | unknown hname? hname =>
    have hname : ∀ f : Field, Text.trim _ ≠ f.label := fun f ↦ by
      cases f
      · exact hname.1
      · exact hname.2
    rw [update_unknown hname? hname]
  | number hname hvalue => rw [update_number hname hvalue]

/-- A call that is not acceptable is refused. -/
theorem exists_refusedWith (h : ¬ c.IsAcceptable) : ∃ e, c.RefusedWith e := by
  cases c with
  | set name value =>
    rw [IsAcceptable, not_or, not_and] at h
    obtain ⟨hname, hvalue⟩ := h
    by_cases hid : Text.trim name = "id"
    · refine ⟨_, .number hid fun n hn ↦ Nat.lt_of_not_le fun hle ↦ ?_⟩
      exact hvalue hid ⟨n, hle, hn⟩
    · exact ⟨_, .unknown rfl ⟨hid, hname⟩⟩
  | unset name => exact ⟨_, .unknown rfl (not_or.1 h).symm⟩
  | merge update => exact absurd trivial h

/-- A call succeeds on every profile, or it is refused on every profile and changes none. -/
theorem answer_cases (c : Call) :
    (c.IsAcceptable ∧ ∀ p : Profile, ∃ q, p.answer c = (.ok (), q) ∧ c.Leaves p q) ∨
    (¬ c.IsAcceptable ∧ ∃ e, c.RefusedWith e ∧ ∀ p : Profile, p.answer c = (.error e, p)) := by
  by_cases h : c.IsAcceptable
  · exact .inl ⟨h, h.exists_answer⟩
  · obtain ⟨e, he⟩ := exists_refusedWith h
    exact .inr ⟨h, e, he, he.answer⟩

end Call

/-- Whatever a call does, it leaves what it gives and nothing else. -/
theorem leaves_answer (c : Call) (p : Profile) : c.Leaves p (p.answer c).2 := by
  obtain ⟨-, hok⟩ | ⟨h, e, -, herror⟩ := c.answer_cases
  · obtain ⟨q, hanswer, hleaves⟩ := hok p
    rw [hanswer]
    exact hleaves
  · rw [herror p]
    exact ⟨fun hgives ↦ absurd hgives.isAcceptable h, fun _ _ ↦ rfl⟩

/-- An answer that is right for a call: success exactly if the call is acceptable, and else an error
with which it is refused. -/
structure Call.IsAnsweredBy (c : Call) (a : Except Error Unit) : Prop where
  /-- Acceptable calls succeed, and no others. -/
  ok : a = .ok () ↔ c.IsAcceptable
  /-- The error is one for this call. -/
  error : ∀ e, a = .error e → c.RefusedWith e

theorem isAnsweredBy_answer (c : Call) (p : Profile) : c.IsAnsweredBy (p.answer c).1 := by
  obtain ⟨h, hok⟩ | ⟨h, e, he, herror⟩ := c.answer_cases
  · obtain ⟨q, hanswer, -⟩ := hok p
    rw [hanswer]
    exact ⟨iff_of_true rfl h, nofun⟩
  · rw [herror p]
    refine ⟨iff_of_false nofun h, ?_⟩
    rintro _ ⟨⟩
    exact he

/-- The answer to a call does not depend on the profile. -/
theorem answer_fst_congr (c : Call) (p q : Profile) : (p.answer c).1 = (q.answer c).1 := by
  obtain ⟨-, hok⟩ | ⟨-, e, -, herror⟩ := c.answer_cases
  · obtain ⟨_, hp, -⟩ := hok p
    obtain ⟨_, hq, -⟩ := hok q
    rw [hp, hq]
  · rw [herror p, herror q]

/-! ### Runs of calls -/

theorem answers_cons (p : Profile) (c : Call) (calls : List Call) :
    p.answers (c :: calls) = (p.answer c).1 :: (p.answer c).2.answers calls :=
  rfl

theorem after_cons (p : Profile) (c : Call) (calls : List Call) :
    p.after (c :: calls) = (p.answer c).2.after calls :=
  rfl

theorem forall₂_answers (p : Profile) (calls : List Call) :
    List.Forall₂ Call.IsAnsweredBy calls (p.answers calls) := by
  induction calls generalizing p with
  | nil => exact .nil
  | cons c calls ih => exact .cons (isAnsweredBy_answer c p) (ih _)

theorem answers_congr (p q : Profile) (calls : List Call) : p.answers calls = q.answers calls := by
  induction calls generalizing p q with
  | nil => rfl
  | cons c calls ih =>
    rw [answers_cons, answers_cons, answer_fst_congr c p q, ih (p.answer c).2 (q.answer c).2]

/-- The calls of a run that were answered with success. -/
def succeeded (calls : List Call) (answers : List (Except Error Unit)) : List Call :=
  (calls.zip answers).filterMap fun x ↦ if x.2.isOk then some x.1 else none

/-- The calls that succeeded do the same without the others, and all succeed again. -/
theorem after_succeeded (p : Profile) (calls : List Call) :
    let done := succeeded calls (p.answers calls)
    p.after done = p.after calls ∧ ∀ a ∈ p.answers done, a = .ok () := by
  induction calls generalizing p with
  | nil => exact ⟨rfl, nofun⟩
  | cons c calls ih =>
    rw [answers_cons, after_cons]
    obtain ⟨-, hok⟩ | ⟨-, e, -, herror⟩ := c.answer_cases
    · obtain ⟨q, hanswer, -⟩ := hok p
      obtain ⟨hafter, hanswers⟩ := ih q
      rw [hanswer]
      show p.after (c :: succeeded calls (q.answers calls)) = _ ∧
        ∀ a ∈ p.answers (c :: succeeded calls (q.answers calls)), a = .ok ()
      rw [after_cons, answers_cons, hanswer]
      exact ⟨hafter, List.forall_mem_cons.2 ⟨rfl, hanswers⟩⟩
    · rw [herror p]
      exact ih p

/-- What a run of calls leaves in the fields. -/
structure LastGiven (calls : List Call) (p after : Profile) : Prop where
  /-- A field has what the last call gave that gave it something. -/
  given : ∀ {before later : List Call} {c : Call} {f : Field} {v : Option f.Value},
    calls = before ++ c :: later → c.Gives f v → (∀ d ∈ later, ∀ w, ¬ d.Gives f w) →
      after.get f = v
  /-- A field that was given nothing is as before. -/
  kept : ∀ f : Field, (∀ c ∈ calls, ∀ v, ¬ c.Gives f v) → after.get f = p.get f

theorem lastGiven_after (p : Profile) (calls : List Call) :
    LastGiven calls p (p.after calls) := by
  induction calls generalizing p with
  | nil => exact ⟨fun h ↦ absurd h (by simp), fun _ _ ↦ rfl⟩
  | cons c calls ih =>
    have hleaves := leaves_answer c p
    have ih := ih (p.answer c).2
    rw [after_cons]
    constructor
    · intro before later d f v hsplit hd hlater
      cases before with
      | nil =>
        -- No later call gives this field anything, so what it got here is kept.
        obtain ⟨rfl, rfl⟩ := List.cons.inj hsplit
        exact (ih.kept f hlater).trans (hleaves.given hd)
      | cons b before => exact ih.given (List.cons.inj hsplit).2 hd hlater
    · intro f hf
      exact (ih.kept f fun d hd ↦ hf d (List.mem_cons_of_mem c hd)).trans
        (hleaves.kept f (hf c List.mem_cons_self))

/-- **Calls are answered each on its own, and those that fail may be left out.** A call succeeds
exactly if it is acceptable, whatever was called before and whatever the profile is; else the error
tells the name that is unknown, or that no number is stated. The calls that succeeded lead to the
same profile alone, and each field has what the last of them gave it, or is as before. -/
theorem answers_lastGiven (p : Profile) (calls : List Call) :
    let done := succeeded calls (p.answers calls)
    List.Forall₂ Call.IsAnsweredBy calls (p.answers calls) ∧
      (∀ q : Profile, q.answers calls = p.answers calls) ∧
      p.after done = p.after calls ∧ (∀ a ∈ p.answers done, a = .ok ()) ∧
      LastGiven done p (p.after calls) := by
  intro done
  obtain ⟨hafter, hanswers⟩ := after_succeeded p calls
  have hlast : LastGiven done p (p.after done) := lastGiven_after p done
  rw [hafter] at hlast
  exact ⟨forall₂_answers p calls, fun q ↦ answers_congr q p calls, hafter, hanswers, hlast⟩

example : empty.after [.set " id " "+7", .set "Name" "Ana", .set "name" " Ana ", .set "id" "-1"] =
    ⟨some 7, some " Ana "⟩ := by
  decide

end Fitout.Profile
