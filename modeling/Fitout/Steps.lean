/-!
# Steps

Steps on a state that are taken one after the other, each of which has an answer. Steps may be taken
in two parts (`Steps.run_append`), and each answer is found at the place of its step
(`Steps.getElem?_run`).
-/

namespace Fitout.Steps

variable {σ α β : Type} {step : σ → α → β × σ}

/-- The answers to steps that are taken one after the other, and the state at the end. -/
def run (step : σ → α → β × σ) (s : σ) : List α → List β × σ
  | [] => ([], s)
  | a :: as =>
    let (answer, next) := step s a
    let (answers, last) := run step next as
    (answer :: answers, last)

theorem run_cons (s : σ) (a : α) (as : List α) :
    run step s (a :: as) =
      ((step s a).1 :: (run step (step s a).2 as).1, (run step (step s a).2 as).2) :=
  rfl

theorem run_append (s : σ) (earlier later : List α) :
    run step s (earlier ++ later) =
      ((run step s earlier).1 ++ (run step (run step s earlier).2 later).1,
        (run step (run step s earlier).2 later).2) := by
  induction earlier generalizing s with
  | nil => rfl
  | cons a earlier ih => rw [List.cons_append, run_cons, ih, run_cons, List.cons_append]

theorem length_run (s : σ) (as : List α) : (run step s as).1.length = as.length := by
  induction as generalizing s with
  | nil => rfl
  | cons a as ih => rw [run_cons, List.length_cons, List.length_cons, ih]

/-- The answer to a step is found at its place. -/
theorem getElem?_run (s : σ) (earlier : List α) (a : α) (later : List α) :
    (run step s (earlier ++ a :: later)).1[earlier.length]? =
      some (step (run step s earlier).2 a).1 := by
  have hlength : (run step s earlier).1.length = earlier.length := length_run s earlier
  rw [run_append, List.getElem?_append_right (Nat.le_of_eq hlength), hlength, Nat.sub_self]
  rfl

end Fitout.Steps
