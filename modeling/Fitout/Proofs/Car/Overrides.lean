import Fitout.Proofs.Car.Changes
import Fitout.Proofs.Car.Drafts

/-!
# Overrides are applied together

The overrides of an environment are changes of different fields, and whether one of them is
acceptable is decided by its value alone (`Override.isAcceptable`). So the overrides are applied,
all of them, just when every variable that is set has an acceptable value, whatever car they are
applied to; a second time they make no difference. Otherwise nothing changes, and the refusal names
the first variable whose value is not acceptable.

The changes are made in place, one after the other, and the car has those before the refused one
when that is refused (`Draft.answer_overrideEach`). It is the copy that they are tried on first that
keeps this from being seen (`Draft.answer_override`). The fields are addressed by their names, but
no name is unknown, since every field is found by its name (`Override.answer_perform`).

Main statement: `Draft.override_together`.
-/

namespace Fitout

open Program (answer)

namespace Override

/-! ### One override -/

/-- The change that an override asks for. -/
def change (o : Override) : Change :=
  ⟨o.field, if o.isBlank then none else some o.value⟩

/-- Whether the value of a variable is acceptable on its own: if it is blank, the field must be
optional, and else the value must be accepted for the field. -/
def isAcceptable (o : Override) : Bool :=
  if o.isBlank then !o.field.isMandatory else o.field.accepts o.value

theorem isAcceptable_change (o : Override) : o.change.isAcceptable = o.isAcceptable := by
  unfold change isAcceptable
  split <;> rfl

theorem apply_eq (o : Override) (car : Car) :
    o.apply car =
      (car.change o.change).mapError fun r ↦ { r with field := o.field.variableName } := by
  unfold apply change
  split <;> rfl

theorem change_of_apply {o : Override} {car after : Car} (h : o.apply car = .ok after) :
    car.change o.change = .ok after := by
  rwa [apply_eq, Except.mapError_eq_ok_iff] at h

theorem exists_apply_iff {o : Override} {car : Car} :
    (∃ after, o.apply car = .ok after) ↔ o.isAcceptable = true := by
  simp only [apply_eq, Except.mapError_eq_ok_iff, Change.exists_change_iff, isAcceptable_change]

theorem field_of_apply_error {o : Override} {car : Car} {r : Rejection}
    (h : o.apply car = .error r) : r.field = o.field.variableName := by
  rw [apply_eq, Except.mapError_eq_error_iff] at h
  obtain ⟨r', -, rfl⟩ := h
  rfl

/-- In place and by the name of its field, an override does the same, and a car that it fails on is
left as it is. -/
theorem answer_perform (o : Override) (car : Car) :
    answer o.perform car = car.settle ((o.apply car).mapError .rejected) := by
  rw [perform, Program.answer_adapt, apply]
  split
  · rw [Draft.answer_unsetNamed, Car.unsetNamed_name]
    rcases car.unset o.field with r | after <;> rfl
  · rw [Draft.answer_setNamed, Car.setNamed_name]
    rcases car.set o.field o.value with r | after <;> rfl

end Override

/-! ### The overrides of an environment -/

namespace Environment

variable {env : Environment} {f : Field}

/-- The overrides of some fields that an environment asks for. -/
def overridesOf (env : Environment) (fs : List Field) : List Override :=
  fs.filterMap fun f ↦ (env.get? f.variableName).map (⟨f, ·⟩)

/-- The number of variables that are set. -/
def overrideCount (env : Environment) : Nat :=
  Field.all.countP fun f ↦ (env.get? f.variableName).isSome

theorem length_overrides (env : Environment) : env.overrides.length = env.overrideCount := by
  rw [overrides, List.length_filterMap_eq_countP, overrideCount]
  simp

/-- All variables that are set have acceptable values. -/
def IsAcceptable (env : Environment) : Prop :=
  ∀ (f : Field) (v : String), env.get? f.variableName = some v →
    (Override.mk f v).isAcceptable = true

/-- The first field, in their order, whose variable is set to a value that is not acceptable. -/
def FirstUnacceptable (env : Environment) (f : Field) : Prop :=
  ∃ before later v, Field.all = before ++ f :: later ∧ env.get? f.variableName = some v ∧
    (Override.mk f v).isAcceptable = false ∧
    ∀ g ∈ before, ∀ w, env.get? g.variableName = some w → (Override.mk g w).isAcceptable = true

theorem isAcceptable_iff : env.IsAcceptable ↔ ∀ o ∈ env.overrides, o.isAcceptable = true := by
  constructor
  · intro h o ho
    exact h o.field o.value (mem_overrides.1 ho)
  · intro h f v hv
    exact h ⟨f, v⟩ (mem_overrides.2 hv)

/-- The first of the overrides that is not acceptable is that of the first such field. -/
theorem firstUnacceptable_of_split {before later : List Override} {o : Override}
    (hsplit : env.overrides = before ++ o :: later)
    (hbefore : ∀ p ∈ before, p.isAcceptable = true) (ho : o.isAcceptable = false) :
    env.FirstUnacceptable o.field := by
  obtain ⟨front, rest, hall, rfl, hrest⟩ := List.filterMap_eq_append_iff.1 hsplit
  obtain ⟨unset, f, more, rfl, hunset, hf, -⟩ := List.filterMap_eq_cons_iff.1 hrest
  obtain ⟨v, hv, rfl⟩ := Option.map_eq_some_iff.1 hf
  refine ⟨front ++ unset, more, v, by rw [hall, List.append_assoc], hv, ho, fun g hg w hw ↦ ?_⟩
  rcases List.mem_append.1 hg with hfront | hunset'
  · exact hbefore ⟨g, w⟩ (List.mem_filterMap.2 ⟨g, hfront, by rw [hw]; rfl⟩)
  · have hnone := hunset g hunset'
    rw [hw] at hnone
    cases hnone

/-- After the overrides, the field of a variable that is set has what its value asks for, and any
other field is as before. -/
structure Governs (env : Environment) (car after : Car) : Prop where
  /-- A variable that is set gives its field the value that it stands for, or makes it absent. -/
  holds : ∀ (f : Field) (v : String), env.get? f.variableName = some v →
    (Override.mk f v).change.Holds after
  /-- A variable that is not set leaves its field. -/
  same : ∀ f : Field, env.get? f.variableName = none → f.Same car after

/-- Each field has one variable, so the last change of a field is its only one. -/
theorem governs_of_lastWins {car after : Car}
    (h : LastWins (fun o c ↦ c = o.change) env.overrides car after) : env.Governs car after where
  holds f v hv := by
    obtain ⟨before, later, hsplit⟩ := List.append_of_mem (mem_overrides (o := ⟨f, v⟩).2 hv)
    have hnodup := env.nodup_overrides
    rw [hsplit, List.map_append, List.map_cons] at hnodup
    refine h.changed hsplit rfl ?_
    rintro o ho _ rfl heq
    exact (List.nodup_cons.1 (List.nodup_append.1 hnodup).2.1).1 (List.mem_map.2 ⟨o, ho, heq⟩)
  same f hf := by
    refine h.kept f ?_
    rintro o ho _ rfl heq
    have hv : env.get? o.field.variableName = some o.value := mem_overrides.1 ho
    rw [show o.field = f from heq, hf] at hv
    cases hv

end Environment

namespace Car

variable {car after : Car} {env : Environment} {r : Rejection}

theorem exists_override_iff :
    (∃ after, car.override env.overrides = .ok after) ↔ env.IsAcceptable := by
  rw [Environment.isAcceptable_iff]
  constructor
  · rintro ⟨after, h⟩ o ho
    obtain ⟨c, c', hc⟩ := Except.exists_of_foldlM_eq_ok h o ho
    exact Override.exists_apply_iff.1 ⟨c', hc⟩
  · intro h
    exact Except.exists_foldlM_eq_ok (fun o ho c ↦ Override.exists_apply_iff.2 (h o ho)) car

theorem governs_of_override (h : car.override env.overrides = .ok after) :
    env.Governs car after := by
  refine Environment.governs_of_lastWins (lastWins_of_foldlM (fun {c c' o} hstep ↦ ?_) h)
  exact ⟨o.change, rfl, fun d hd ↦ hd, Override.change_of_apply hstep⟩

/-- Once the overrides hold, they make no difference. -/
theorem override_of_governs (h : env.Governs car after) :
    after.override env.overrides = .ok after := by
  have hstep : ∀ o ∈ env.overrides, o.apply after = .ok after := by
    intro o ho
    have hholds : o.change.Holds after :=
      h.holds o.field o.value (Environment.mem_overrides.1 ho)
    rw [Override.apply_eq, Change.change_eq_self hholds]
    rfl
  rw [override]
  generalize env.overrides = os at hstep
  induction os with
  | nil => rfl
  | cons o os ih =>
    rw [List.foldlM_cons, hstep o List.mem_cons_self]
    exact ih fun p hp ↦ hstep p (List.mem_cons_of_mem o hp)

theorem firstUnacceptable_of_override (h : car.override env.overrides = .error r) :
    ∃ f, env.FirstUnacceptable f ∧ r.field = f.variableName := by
  obtain ⟨before, o, later, c, hsplit, hbefore, ho⟩ := Except.foldlM_eq_error_iff.1 h
  refine ⟨o.field, Environment.firstUnacceptable_of_split hsplit (fun p hp ↦ ?_) ?_,
    Override.field_of_apply_error ho⟩
  · obtain ⟨c, c', hc⟩ := Except.exists_of_foldlM_eq_ok hbefore p hp
    exact Override.exists_apply_iff.1 ⟨c', hc⟩
  · refine Bool.eq_false_iff.2 fun haccepted ↦ ?_
    obtain ⟨c', hc'⟩ : ∃ c', o.apply c = .ok c' := Override.exists_apply_iff.2 haccepted
    rw [ho] at hc'
    cases hc'

end Car

/-! ### In place -/

namespace Draft

variable {car after : Car} {env : Environment}

/-- The overrides of some fields are applied in place one after the other. If one of them is
refused, those before it have been applied. -/
theorem answer_overrideEach (env : Environment) (fs : List Field) (car : Car) :
    match car.override (env.overridesOf fs) with
    | .ok after => answer (overrideEach env fs) car = (.ok (env.overridesOf fs).length, after)
    | .error r => ∃ before o later mid, env.overridesOf fs = before ++ o :: later ∧
        car.override before = .ok mid ∧ o.apply mid = .error r ∧
        answer (overrideEach env fs) car = (.error (.rejected r), mid) := by
  induction fs generalizing car with
  | nil => rfl
  | cons f fs ih =>
    rcases hv : env.get? f.variableName with - | v
    · have hcons : env.overridesOf (f :: fs) = env.overridesOf fs := by
        simp [Environment.overridesOf, hv]
      have hstep : overrideEach env (f :: fs) = overrideEach env fs := by
        simp [overrideEach, hv]
      rw [hcons, hstep]
      exact ih car
    · have hcons : env.overridesOf (f :: fs) = ⟨f, v⟩ :: env.overridesOf fs := by
        simp [Environment.overridesOf, hv]
      have hstep : answer (overrideEach env (f :: fs)) car =
          answer (do Override.perform ⟨f, v⟩; return (← overrideEach env fs) + 1 : Draft Nat)
            car := by
        simp [overrideEach, hv]
      have hfold : car.override (⟨f, v⟩ :: env.overridesOf fs) =
          (Override.apply car ⟨f, v⟩).bind (Car.override · (env.overridesOf fs)) := rfl
      rw [hcons, hstep, hfold, Program.answer_bind, Override.answer_perform]
      rcases hnext : Override.apply car ⟨f, v⟩ with r | next
      · exact ⟨[], ⟨f, v⟩, env.overridesOf fs, car, rfl, rfl, hnext, rfl⟩
      · have ih := ih next
        simp only [Except.bind, Except.mapError, Car.settle, Program.answer_bind]
        rcases hrest : next.override (env.overridesOf fs) with r | after
        · rw [hrest] at ih
          obtain ⟨before, o, later, mid, hsplit, hbefore, ho, hanswer⟩ := ih
          refine ⟨⟨f, v⟩ :: before, o, later, mid, by rw [hsplit]; rfl, ?_, ho, by rw [hanswer]⟩
          show (Override.apply car ⟨f, v⟩).bind _ = _
          rw [hnext]
          exact hbefore
        · rw [hrest] at ih
          simp only [show answer (overrideEach env fs) next = _ from ih]
          rfl

/-- Of overrides that are tried on a copy, all are applied or none. -/
theorem answer_override (env : Environment) (car : Car) :
    answer (override env) car =
      match car.override env.overrides with
      | .ok after => (.ok env.overrideCount, after)
      | .error r => (.error (.rejected r), car) := by
  have heach := answer_overrideEach env Field.all car
  rw [show env.overridesOf Field.all = env.overrides from rfl, env.length_overrides] at heach
  rw [override, Program.answer_bind, Program.answer_get]
  rcases hoverride : car.override env.overrides with r | after
  · rw [hoverride] at heach
    obtain ⟨-, -, -, mid, -, -, -, hanswer⟩ := heach
    simp only [hanswer]
    rfl
  · rw [hoverride] at heach
    simp only [show answer (overrideEach env Field.all) car = _ from heach]
    rfl

/-- **Overrides are applied all together or not at all.** They are applied just when every variable
that is set has an acceptable value, whatever the car is. Then they are counted, the fields of these
variables have what the values ask for, the other fields are as before, and applying the overrides
once more changes nothing. Else the car is as before, and the error is a refusal in the name of the
first variable whose value is not acceptable. -/
theorem override_together (car : Car) (env : Environment) :
    ((∃ n after, answer (override env) car = (.ok n, after)) ↔ env.IsAcceptable) ∧
    (∀ n after, answer (override env) car = (.ok n, after) →
      n = env.overrideCount ∧ env.Governs car after ∧
        answer (override env) after = (.ok n, after)) ∧
    ∀ e after, answer (override env) car = (.error e, after) →
      after = car ∧ ∃ f r, e = .rejected r ∧ env.FirstUnacceptable f ∧
        r.field = f.variableName := by
  have hanswer := answer_override env car
  rcases hoverride : car.override env.overrides with r | after
  · obtain ⟨f, hf, hfield⟩ := Car.firstUnacceptable_of_override hoverride
    have hnot : ¬ env.IsAcceptable := fun h ↦ by
      obtain ⟨after, hafter⟩ := Car.exists_override_iff.2 h
      cases hoverride.symm.trans hafter
    replace hanswer : answer (override env) car = (.error (.rejected r), car) := by
      rw [hanswer, hoverride]
    simp only [hanswer, Prod.mk.injEq, reduceCtorEq, false_and, exists_false, false_iff]
    refine ⟨hnot, fun _ _ h ↦ h.elim, ?_⟩
    rintro _ _ ⟨⟨⟩, rfl⟩
    exact ⟨rfl, f, r, rfl, hf, hfield⟩
  · have hgoverns := Car.governs_of_override hoverride
    replace hanswer : answer (override env) car = (.ok env.overrideCount, after) := by
      rw [hanswer, hoverride]
    have hagain : answer (override env) after = (.ok env.overrideCount, after) := by
      rw [answer_override, Car.override_of_governs hgoverns]
    simp only [hanswer, Prod.mk.injEq, Except.ok.injEq, reduceCtorEq, false_and]
    refine ⟨⟨fun _ ↦ Car.exists_override_iff.1 ⟨after, hoverride⟩, fun _ ↦ ⟨_, _, rfl, rfl⟩⟩, ?_,
      fun _ _ h ↦ h.elim⟩
    rintro _ _ ⟨rfl, rfl⟩
    exact ⟨rfl, hgoverns, hagain⟩

/-- A blank variable clears the camera. A camera that is none is refused, although the brand was
changed before: the car that this was tried on has the new brand, and the car itself the old one. -/
theorem override_together_camera :
    let car : Car :=
      ⟨⟨7, by decide⟩, ⟨"VW", by decide, by decide, by simp; decide, by decide⟩, .lng, some .rear,
        none, none⟩
    let blank : Environment := ⟨[("CARCONF_CAMERA", " ")]⟩
    let side : Environment := ⟨[("CARCONF_CAMERA", "side"), ("CARCONF_BRAND", "Seat")]⟩
    (∃ after, answer (override blank) car = (.ok 1, after) ∧ after.camera = none ∧
        answer (override blank) after = (.ok 1, after)) ∧
      (answer (overrideEach side Field.all) car).2.brand.text = "Seat" ∧
      ∃ e, answer (override side) car = (.error e, car) ∧ ∃ f r, e = .rejected r ∧
        side.FirstUnacceptable f ∧ r.field = f.variableName := by
  intro car blank side
  obtain ⟨-, hok, -⟩ := override_together car blank
  obtain ⟨-, -, herror⟩ := override_together car side
  have hblank : answer (override blank) car = (.ok 1, { car with camera := none }) := by
    rw [answer_override]
    rfl
  have hside : answer (override side) car = (.error (.rejected ⟨"CARCONF_CAMERA",
      .unknownMember "side" ["front", "rear", "both", "none"]⟩), car) := by
    rw [answer_override]
    rfl
  exact ⟨⟨_, hblank, rfl, (hok _ _ hblank).2.2⟩, by decide +kernel, _, hside, (herror _ _ hside).2⟩

end Draft

end Fitout
