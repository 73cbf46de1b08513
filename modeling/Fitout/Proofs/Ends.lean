import Mathlib.Data.List.Forall2

/-!
# How a computation ends

A computation that may fail in several places fails where the first of these fails. So what it does
is told by the list of its failures, in the order of its steps, and by what holds of its value when
the list is empty (`Ends`). Such a list can be written down without running anything, as long as
what can fail in one step does not depend on the values of the steps before it.
-/

namespace Fitout

/-! ### Results that are values -/

/-- Two steps succeed if the first does and the second does on its result. -/
theorem Except.bind_eq_ok_iff {ε α β : Type} {x : Except ε α} {k : α → Except ε β} {b : β} :
    x >>= k = .ok b ↔ ∃ a, x = .ok a ∧ k a = .ok b := by
  cases x with
  | error e => simp [bind, Except.bind]
  | ok a => simp [bind, Except.bind]

theorem Except.map_eq_ok_iff {ε α β : Type} {x : Except ε α} {f : α → β} {b : β} :
    x.map f = .ok b ↔ ∃ a, x = .ok a ∧ f a = b := by
  cases x with
  | error e => simp [Except.map]
  | ok a => simp [Except.map]

theorem Except.mapError_eq_ok_iff {ε ε' α : Type} {x : Except ε α} {f : ε → ε'} {a : α} :
    x.mapError f = .ok a ↔ x = .ok a := by
  cases x <;> simp [Except.mapError]

/-- Two steps fail if the first does, or the second does on its result. -/
theorem Except.bind_eq_error_iff {ε α β : Type} {x : Except ε α} {k : α → Except ε β} {e : ε} :
    x >>= k = .error e ↔ x = .error e ∨ ∃ a, x = .ok a ∧ k a = .error e := by
  cases x with
  | error e => simp [bind, Except.bind]
  | ok a => simp [bind, Except.bind]

theorem Except.map_eq_error_iff {ε α β : Type} {x : Except ε α} {f : α → β} {e : ε} :
    x.map f = .error e ↔ x = .error e := by
  cases x <;> simp [Except.map]

theorem Except.mapError_eq_error_iff {ε ε' α : Type} {x : Except ε α} {f : ε → ε'} {e : ε'} :
    x.mapError f = .error e ↔ ∃ e', x = .error e' ∧ f e' = e := by
  cases x <;> simp [Except.mapError]

/-- Steps over a list fail at the first of its members that fails. -/
theorem Except.foldlM_eq_error_iff {ε α β : Type} {step : β → α → Except ε β} {as : List α}
    {b : β} {e : ε} :
    as.foldlM step b = .error e ↔ ∃ before a later b', as = before ++ a :: later ∧
      before.foldlM step b = .ok b' ∧ step b' a = .error e := by
  constructor
  · intro h
    induction as generalizing b with
    | nil => cases h
    | cons a as ih =>
      rw [List.foldlM_cons, bind_eq_error_iff] at h
      rcases h with ha | ⟨next, hnext, hrest⟩
      · exact ⟨[], a, as, b, rfl, rfl, ha⟩
      · obtain ⟨before, c, later, b', rfl, hbefore, hc⟩ := ih hrest
        refine ⟨a :: before, c, later, b', rfl, ?_, hc⟩
        rw [List.foldlM_cons, hnext]
        exact hbefore
  · rintro ⟨before, a, later, b', rfl, hbefore, ha⟩
    rw [List.foldlM_append, hbefore]
    show (a :: later).foldlM step b' = .error e
    rw [List.foldlM_cons, ha]
    rfl

/-- Results for the members of a list fail with the first of them that fails. -/
theorem Except.mapM_eq_error_iff {ε α β : Type} {f : α → Except ε β} {as : List α} {e : ε} :
    as.mapM f = .error e ↔ ∃ before a later bs, as = before ++ a :: later ∧
      before.mapM f = .ok bs ∧ f a = .error e := by
  constructor
  · intro h
    induction as with
    | nil => cases h
    | cons a as ih =>
      rw [List.mapM_cons, bind_eq_error_iff] at h
      rcases h with ha | ⟨b, hb, hrest⟩
      · exact ⟨[], a, as, [], rfl, rfl, ha⟩
      · have hrest : as.mapM f = .error e := by
          rcases (bind_eq_error_iff.1 hrest) with hrest | ⟨bs, -, hbs⟩
          · exact hrest
          · cases hbs
        obtain ⟨before, c, later, bs, rfl, hbefore, hc⟩ := ih hrest
        refine ⟨a :: before, c, later, b :: bs, rfl, ?_, hc⟩
        rw [List.mapM_cons, hb, hbefore]
        rfl
  · rintro ⟨before, a, later, bs, rfl, hbefore, ha⟩
    rw [List.mapM_append, hbefore, List.mapM_cons, ha]
    rfl

/-- Every step of a run that succeeds does. -/
theorem Except.exists_of_foldlM_eq_ok {ε α β : Type} {step : β → α → Except ε β} {as : List α}
    {b b' : β} (h : as.foldlM step b = .ok b') : ∀ a ∈ as, ∃ c c', step c a = .ok c' := by
  induction as generalizing b with
  | nil => exact nofun
  | cons a as ih =>
    rw [List.foldlM_cons, bind_eq_ok_iff] at h
    obtain ⟨next, hnext, hrest⟩ := h
    exact List.forall_mem_cons.2 ⟨⟨b, next, hnext⟩, ih hrest⟩

/-- Steps that succeed wherever they start succeed one after the other. -/
theorem Except.exists_foldlM_eq_ok {ε α β : Type} {step : β → α → Except ε β} {as : List α}
    (h : ∀ a ∈ as, ∀ b, ∃ b', step b a = .ok b') (b : β) : ∃ b', as.foldlM step b = .ok b' := by
  induction as generalizing b with
  | nil => exact ⟨b, rfl⟩
  | cons a as ih =>
    obtain ⟨next, hnext⟩ := h a List.mem_cons_self b
    rw [List.foldlM_cons, hnext]
    exact ih (fun c hc ↦ h c (List.mem_cons_of_mem a hc)) next

/-- Two steps that have the same values on the members of a list have the same values on it. -/
theorem Except.mapM_eq_ok_congr {ε ε' α β : Type} {f : α → Except ε β} {g : α → Except ε' β}
    {as : List α} (h : ∀ a ∈ as, ∀ b, f a = .ok b ↔ g a = .ok b) (bs : List β) :
    as.mapM f = .ok bs ↔ as.mapM g = .ok bs := by
  induction as generalizing bs with
  | nil => simp [pure, Except.pure]
  | cons a as ih =>
    have ih := ih fun c hc ↦ h c (List.mem_cons_of_mem a hc)
    simp only [List.mapM_cons, Except.bind_eq_ok_iff, h a List.mem_cons_self, ih, pure,
      Except.pure, Except.ok.injEq]

/-! ### Failures in their order -/

/-- The failure of a result, if it has one. -/
def failures {ε α : Type} : Except ε α → List ε
  | .ok _ => []
  | .error e => [e]

/-- A result is the first of some failures or, if there are none, a value with a property. -/
inductive Ends {ε α : Type} (P : α → Prop) : Except ε α → List ε → Prop
  | value {a : α} (h : P a) : Ends P (.ok a) []
  | failure (e : ε) (later : List ε) : Ends P (.error e) (e :: later)

namespace Ends

variable {ε ε' α β : Type} {P : α → Prop} {Q : β → Prop} {r : Except ε α} {es later : List ε}

/-- Every result ends with its own failure or its own value. -/
theorem self (r : Except ε α) : Ends (r = .ok ·) r (failures r) := by
  cases r with
  | error e => exact failure e []
  | ok a => exact value rfl

theorem mono {P' : α → Prop} (h : Ends P r es) (himp : ∀ a, P a → P' a) : Ends P' r es := by
  rcases h with hp | ⟨e, later⟩
  · exact value (himp _ hp)
  · exact failure e later

theorem mapError (h : Ends P r es) (f : ε → ε') : Ends P (r.mapError f) (es.map f) := by
  rcases h with hp | ⟨e, later⟩
  · exact value hp
  · exact failure (f e) _

theorem map (h : Ends P r es) {f : α → β} (hf : ∀ a, P a → Q (f a)) : Ends Q (r.map f) es := by
  rcases h with hp | ⟨e, later⟩
  · exact value (hf _ hp)
  · exact failure e later

/-- What the second step can fail with comes after what the first can fail with. -/
theorem bind {k : α → Except ε β} (h : Ends P r es) (hk : ∀ a, P a → Ends Q (k a) later) :
    Ends Q (r.bind k) (es ++ later) := by
  rcases h with hp | ⟨e, rest⟩
  · exact hk _ hp
  · exact failure e (rest ++ later)

/-- A value with a property is also the value of its result. -/
theorem and_eq (h : Ends P r es) : Ends (fun a ↦ P a ∧ r = .ok a) r es := by
  rcases h with hp | ⟨e, later⟩
  · exact value ⟨hp, rfl⟩
  · exact failure e later

/-- A step for every member of a list, from left to right. -/
theorem mapM {γ : Type} {f : γ → Except ε α} {P : γ → α → Prop} {fails : γ → List ε}
    (h : ∀ c, Ends (P c) (f c) (fails c)) (cs : List γ) :
    Ends (List.Forall₂ P cs) (cs.mapM f) (cs.flatMap fails) := by
  induction cs with
  | nil => exact value .nil
  | cons c cs ih =>
    rw [List.mapM_cons, List.flatMap_cons]
    refine (h c).bind fun a ha ↦ ?_
    rw [← List.append_nil (cs.flatMap fails)]
    exact ih.bind fun as has ↦ value (.cons ha has)

end Ends

end Fitout
