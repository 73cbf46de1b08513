import Fitout.Proofs.Command.Assignments
import Fitout.Proofs.Command.Outcome

/-!
# What a set does

The assignments are read before the file is looked at (`Command.FirstMalformed.runSet`); then they
are applied to the configuration of the file one after the other, and the outcome is emitted. So a
set succeeds if the configuration of the file becomes another one by the texts of the assignments
(`Car.Becomes`) and the target receives this one (`Command.effect_set_eq_ok_iff`).

Which of the steps fails, and with what, and what the outcome is if none does, is told together in
`Invocation.run_set`.
-/

namespace Fitout

/-- An unknown name is the fault of the caller, a refused value is not. -/
theorem Assignment.FirstRefused.exitCode {as : List Assignment} {e : Error}
    (h : FirstRefused as e) : e.exitCode = if e.isRejection then 1 else 4 := by
  obtain ⟨before, a, later, -, -, -, ha⟩ := h
  cases ha <;> rfl

namespace Command

section

variable {wording : Wording} {verbose quiet : Bool} {env : Environment} {t after : Tree}
  {file : Path} {texts : List String} {target : Target} {text : String} {e : Failure}

/-! ### Sets that succeed -/

/-- The configuration that assignments make of the one in a file. -/
def Sets (t : Tree) (file : Path) (texts : List String) (car : Car) : Prop :=
  ∃ current, load t file = .ok current ∧ current.Becomes texts car

/-- A set emits the configuration that the assignments make of the one in the file. -/
theorem effect_set_eq_ok_iff :
    effect wording quiet t env (.set file texts target) = .ok (text, after) ↔
      ∃ car, Sets t file texts car ∧ target.Receives t car text after := by
  simp only [effect, Except.bind_eq_ok_iff, Except.mapError_eq_ok_iff, emitted_eq_ok_iff]
  constructor
  · rintro ⟨assignments, hparse, current, hload, car, hassign, hreceives⟩
    exact ⟨car, ⟨current, hload, assignments, hparse, hassign⟩, hreceives⟩
  · rintro ⟨car, ⟨current, hload, assignments, hparse, hassign⟩, hreceives⟩
    exact ⟨assignments, hparse, current, hload, car, hassign, hreceives⟩

/-- Texts of assignments to different fields that follow each other may change places. -/
theorem Sets.swap {car : Car} {before later : List String} {x y : String} {a b : Assignment}
    {c d : Change} (hx : Assignment.parse x = .ok a) (hy : Assignment.parse y = .ok b)
    (hc : a.Asks c) (hd : b.Asks d) (hne : c.field ≠ d.field)
    (h : Sets t file (before ++ x :: y :: later) car) :
    Sets t file (before ++ y :: x :: later) car := by
  obtain ⟨current, hload, _, hparse, hassign⟩ := h
  simp only [List.mapM_append, List.mapM_cons, Except.bind_eq_ok_iff, hx, hy] at hparse
  obtain ⟨as, has, _, ⟨_, ⟨⟩, _, ⟨_, ⟨⟩, bs, hbs, ⟨⟩⟩, ⟨⟩⟩, ⟨⟩⟩ := hparse
  refine ⟨current, hload, as ++ b :: a :: bs, ?_, Car.assign_swap hc hd hne hassign⟩
  simp only [List.mapM_append, List.mapM_cons, has, hbs, hx, hy]
  rfl

/-! ### Sets that fail -/

/-- Some text is no assignment, and the first that is none fails for this reason. -/
def FirstMalformed (texts : List String) (e : Failure) : Prop :=
  ∃ before text later as, texts = before ++ text :: later ∧
    before.mapM Assignment.parse = .ok as ∧ Assignment.parse text = .error e

theorem firstMalformed_iff : FirstMalformed texts e ↔ texts.mapM Assignment.parse = .error e := by
  rw [Except.mapM_eq_error_iff]
  rfl

/-- A text that is no assignment is the fault of the caller. -/
theorem FirstMalformed.exitCode (h : FirstMalformed texts e) : e.exitCode = 4 := by
  obtain ⟨-, text, -, -, -, -, htext⟩ := h
  rw [Assignment.parse] at htext
  split at htext
  · cases htext
    rfl
  · dsimp only at htext
    split_ifs at htext
    cases htext
    rfl

/-- Whatever the file is, nothing comes of a set with a text that is no assignment. -/
theorem FirstMalformed.effect (h : FirstMalformed texts e) (wording : Wording) (quiet : Bool)
    (env : Environment) :
    Command.effect wording quiet t env (.set file texts target) = .error e := by
  rw [Command.effect, firstMalformed_iff.1 h]
  rfl

/-- Else nothing comes of it if the file cannot be loaded. -/
theorem effect_set_of_load_eq_error {as : List Assignment}
    (hparse : texts.mapM Assignment.parse = .ok as) (hload : load t file = .error e) :
    effect wording quiet t env (.set file texts target) = .error e := by
  rw [effect, hparse, hload]
  rfl

/-- As long as some text is no assignment, nothing is asked of any host. -/
theorem FirstMalformed.runSet (h : FirstMalformed texts e) {m : Type → Type} [Monad m]
    [LawfulMonad m] [Host m] :
    (Command.runSet verbose quiet file texts target : ExceptT Failure m Unit) = throw e := by
  rw [Command.runSet, firstMalformed_iff.1 h]
  show (throw e >>= _ : ExceptT Failure m Unit) = throw e
  exact ExceptT.ext (by simp)

end

end Command

namespace Invocation

section

variable {verbose quiet : Bool} {file : Path} {target : Target} {wording : Wording}
  {env : Environment} {t : Tree}

/-- A set of assignments that can be read, to a file that can be loaded. -/
theorem run_set_of_load {texts : List String} {as : List Assignment} {current : Car}
    (hparse : texts.mapM Assignment.parse = .ok as) (hload : Command.load t file = .ok current) :
    let outcome := Invocation.run ⟨verbose, quiet, .set file texts target⟩ wording env t
    (∃ e, Assignment.FirstRefused as e ∧ outcome.FailsWith t (.operation e) ∧
        outcome.exitCode = if e.isRejection then 1 else 4) ∨
      (∀ a ∈ as, a.IsAcceptable) ∧ ∃ car, LastWins Assignment.Asks as current car ∧
        match target.failures t with
        | e :: _ => outcome.FailsWith t e
        | [] => ∃ text after, target.Receives t car text after ∧ outcome.Leaves text after := by
  intro outcome
  have heffect : effect ⟨verbose, quiet, .set file texts target⟩ wording t env =
      (current.assign as).mapError .operation >>= fun car ↦ Command.emitted t car target := by
    show (texts.mapM Assignment.parse >>= fun as ↦ Command.load t file >>= fun current ↦
      (current.assign as).mapError .operation >>= fun car ↦ Command.emitted t car target) = _
    rw [hparse, hload]
    rfl
  rcases Assignment.exists_firstRefused_or as current with ⟨e, he⟩ | hall
  · rw [Car.assign_of_firstRefused he current] at heffect
    have hfails : outcome.FailsWith t (.operation e) := run_of_error heffect
    exact .inl ⟨e, he, hfails, hfails.exitCode.trans he.exitCode⟩
  · obtain ⟨car, hassign⟩ := Car.exists_assign hall current
    refine .inr ⟨hall, car, Car.lastWins_of_assign hassign, ?_⟩
    rw [hassign] at heffect
    have hends := Command.ends_emitted t car target
    rw [show Command.emitted t car target = _ from heffect.symm] at hends
    exact run_of_ends _ hends

/-- Assignments to different fields that follow each other may change places. -/
theorem run_set_swap {before later : List String} {x y : String} {a b : Assignment}
    {c d : Change} (hx : Assignment.parse x = .ok a) (hy : Assignment.parse y = .ok b)
    (hc : a.Asks c) (hd : b.Asks d) (hne : c.field ≠ d.field) :
    let outcome := Invocation.run ⟨verbose, quiet, .set file (before ++ x :: y :: later) target⟩
      wording env t
    outcome.exitCode = 0 →
      (Invocation.run ⟨verbose, quiet, .set file (before ++ y :: x :: later) target⟩ wording env
        t).Leaves outcome.stdout outcome.tree := by
  intro outcome hzero
  obtain ⟨text, htext⟩ := run_eq_ok_iff.1 ⟨hzero, rfl⟩
  obtain ⟨car, hsets, hreceives⟩ := Command.effect_set_eq_ok_iff.1 htext
  rw [show outcome.stdout = text from (run_of_ok htext).stdout]
  exact run_of_ok (Command.effect_set_eq_ok_iff.2
    ⟨car, hsets.swap hx hy hc hd hne, hreceives⟩)

end

/-- **A set makes its assignments, of which the last to a field counts.** If some text is no
assignment, the run fails for the first that is none, and nothing is asked of the host, so that the
file is not looked at. Else it fails if the file cannot be loaded, and else for the first assignment
that is not acceptable on its own. If there is no such assignment, every field has what the last
assignment to it asks for, or is as in the file, and this configuration is emitted. So assignments
to different fields that follow each other may change places in a run that succeeds. -/
theorem run_set (verbose quiet : Bool) (file : Path) (texts : List String) (target : Target)
    (wording : Wording) (env : Environment) (t : Tree) :
    let outcome := Invocation.run ⟨verbose, quiet, .set file texts target⟩ wording env t
    ((∃ e, Command.FirstMalformed texts e ∧ outcome.FailsWith t e ∧ outcome.exitCode = 4 ∧
        ∀ (m : Type → Type) [Monad m] [LawfulMonad m] [Host m],
          (Command.runSet verbose quiet file texts target : ExceptT Failure m Unit) = throw e) ∨
      ∃ as, texts.mapM Assignment.parse = .ok as ∧
        match Command.load t file with
        | .error e => outcome.FailsWith t e
        | .ok current =>
          (∃ e, Assignment.FirstRefused as e ∧ outcome.FailsWith t (.operation e) ∧
            outcome.exitCode = if e.isRejection then 1 else 4) ∨
          (∀ a ∈ as, a.IsAcceptable) ∧ ∃ car, LastWins Assignment.Asks as current car ∧
            match target.failures t with
            | e :: _ => outcome.FailsWith t e
            | [] => ∃ text after, target.Receives t car text after ∧ outcome.Leaves text after) ∧
    ∀ before x y later a b c d, texts = before ++ x :: y :: later →
      Assignment.parse x = .ok a → Assignment.parse y = .ok b → a.Asks c → b.Asks d →
      c.field ≠ d.field → outcome.exitCode = 0 →
      (Invocation.run ⟨verbose, quiet, .set file (before ++ y :: x :: later) target⟩ wording env
        t).Leaves outcome.stdout outcome.tree := by
  intro outcome
  constructor
  · rcases hparse : texts.mapM Assignment.parse with e | as
    · have hmalformed : Command.FirstMalformed texts e := Command.firstMalformed_iff.2 hparse
      have hfails : outcome.FailsWith t e := run_of_error (hmalformed.effect wording quiet env)
      exact .inl ⟨e, hmalformed, hfails, hfails.exitCode.trans hmalformed.exitCode,
        fun _ ↦ hmalformed.runSet⟩
    · refine .inr ⟨as, rfl, ?_⟩
      rcases hload : Command.load t file with e | current
      · exact run_of_error (Command.effect_set_of_load_eq_error hparse hload)
      · exact run_set_of_load hparse hload
  · rintro before x y later a b c d rfl hx hy hc hd hne hzero
    exact run_set_swap hx hy hc hd hne hzero

/-- Two assignments in place that change their places, of a field under another spelling of its name
and of a mandatory field. An earlier assignment to the same field does not count. -/
theorem run_set_in_place :
    let file : Path := .ofText "../a.yml"
    let start : Tree := { home := .ofText "srv/work" }
    let t := (start.put start.home .directory).put (.ofText "srv/a.yml")
      (.file "id: 7\nbrand: Audi\nengine: diesel\n".toUTF8)
    let outcome (texts : List String) :=
      Invocation.run ⟨false, false, .set file texts (.file file)⟩ ⟨"", fun _ ↦ ""⟩ {} t
    let given := outcome ["camera=", "CAMERA = rear", "id=8"]
    given.exitCode = 0 ∧
      given.tree.read file = .ok "id: 8\nbrand: Audi\nengine: diesel\ncamera: rear\n".toUTF8 ∧
      (outcome ["camera=", "id=8", "CAMERA = rear"]).Leaves given.stdout given.tree := by
  intro file start t outcome given
  have hzero : given.exitCode = 0 := by decide +kernel
  have hread : given.tree.read file =
      .ok "id: 8\nbrand: Audi\nengine: diesel\ncamera: rear\n".toUTF8 := by decide +kernel
  obtain ⟨-, hswap⟩ := run_set false false file ["camera=", "CAMERA = rear", "id=8"] (.file file)
    ⟨"", fun _ ↦ ""⟩ {} t
  exact ⟨hzero, hread, hswap ["camera="] _ _ [] (.set "CAMERA" "rear") (.set "id" "8")
    ⟨.camera, some "rear"⟩ ⟨.id, some "8"⟩ rfl rfl rfl ⟨by decide, rfl⟩ ⟨by decide, rfl⟩ (by decide)
    hzero⟩

end Invocation

end Fitout
