/-!
# Programs on a state

A program works on a state and may fail. What it did to the state before it failed stays done, so a
program answers with a result and also with the state that it leaves (`Program.answer`).
-/

namespace Fitout

/-- A program on a state. -/
abbrev Program (σ ε α : Type) :=
  ExceptT ε (StateM σ) α

namespace Program

variable {σ ε ε' α β : Type}

/-- The result of a program, and the state that it leaves, also if it fails. -/
def answer (p : Program σ ε α) (s : σ) : Except ε α × σ :=
  Id.run (StateT.run p.run s)

variable (s : σ)

@[simp] theorem answer_pure (a : α) : answer (pure a : Program σ ε α) s = (.ok a, s) := rfl

@[simp] theorem answer_throw (e : ε) :
    answer (throw e : Program σ ε α) s = (.error e, s) := rfl

@[simp] theorem answer_ofExcept (r : Except ε α) :
    answer (ofExcept r : Program σ ε α) s = (r, s) := by
  cases r <;> rfl

@[simp] theorem answer_get : answer (get : Program σ ε σ) s = (.ok s, s) := rfl

@[simp] theorem answer_modify (f : σ → σ) :
    answer (modify f : Program σ ε Unit) s = (.ok (), f s) := rfl

/-- The second step starts where the first one ended, and is not taken if the first one fails. -/
theorem answer_bind (p : Program σ ε α) (k : α → Program σ ε β) :
    answer (p >>= k) s =
      match answer p s with
      | (.ok a, s') => answer (k a) s'
      | (.error e, s') => (.error e, s') := by
  show (match answer p s with
    | (r, s') => Id.run (StateT.run (ExceptT.bindCont k r) s')) = _
  rcases answer p s with ⟨_ | _, _⟩ <;> rfl

example : answer (do modify (· + 1); throw "late" : Program Nat String Unit) 0 =
    (.error "late", 1) := rfl

/-- An error can be put in other words afterwards. -/
@[simp] theorem answer_adapt (f : ε → ε') (p : Program σ ε α) :
    answer (ExceptT.adapt f p : Program σ ε' α) s =
      ((answer p s).1.mapError f, (answer p s).2) := rfl

/-- A program that may not fail answers with its result. -/
@[simp] theorem answer_lift (p : StateM σ α) :
    answer (ExceptT.lift p : Program σ ε α) s =
      (.ok (Id.run (p.run s)).1, (Id.run (p.run s)).2) := rfl

end Program

end Fitout
