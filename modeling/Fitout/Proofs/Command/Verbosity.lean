import Fitout.Command.Usage
import Fitout.Proofs.Command.Flags
import Fitout.Proofs.Command.Validate

/-!
# What the verbosity of a run changes

The flags on verbosity and the environment decide what is said in a run and not what it does: the
same comes of a command for all of them, but for the line that a validation prints
(`Command.effect_congr`). A quiet run that succeeds says nothing, since nothing but records are made
on the way to a success and none of them is let through (`Mute`).
-/

namespace Fitout

open Program (answer)

/-! ### What does not matter to a result -/

/-- Two environments override the same fields with the same values. -/
def Environment.OverridesAlike (env env' : Environment) : Prop :=
  ∀ f : Field, env.get? f.variableName = env'.get? f.variableName

theorem Environment.OverridesAlike.overrides {env env' : Environment}
    (h : env.OverridesAlike env') : env.overrides = env'.overrides := by
  unfold Environment.overrides
  simp only [h _]

namespace Command

/-- Whether a command looks at the variables of the fields. -/
def consults : Command → Bool
  | .merge _ _ useEnvironment _ => useEnvironment
  | _ => false

/-- The same comes of a command for all flags and environments, if it sees the same overrides. Only
a validation is quiet on standard output. -/
theorem effect_congr {c : Command} {env env' : Environment}
    (henv : c.consults = true → env.overrides = env'.overrides)
    (hvalidate : ∀ file, c ≠ .validate file) (wording : Wording) (quiet quiet' : Bool) (t : Tree) :
    c.effect wording quiet t env = c.effect wording quiet' t env' := by
  cases c with
  | merge base updates useEnvironment target =>
    rcases useEnvironment with _ | _
    · rfl
    · have hoverridden (car : Car) : overridden env car = overridden env' car := by
        rw [overridden, overridden, henv rfl]
      simp only [effect, hoverridden]
  | validate file => exact absurd rfl (hvalidate file)
  | create | set | completions => rfl

end Command

/-- What a run leaves, apart from what it says, is told by what comes of its command. -/
theorem Invocation.run_congr {inv inv' : Invocation} {wording : Wording} {env env' : Environment}
    {t : Tree} (h : inv.effect wording t env = inv'.effect wording t env') :
    (inv.run wording env t).exitCode = (inv'.run wording env' t).exitCode ∧
      (inv.run wording env t).tree = (inv'.run wording env' t).tree ∧
      (inv.run wording env t).stdout = (inv'.run wording env' t).stdout := by
  rcases heffect : inv.effect wording t env with e | ⟨text, after⟩
  · have hrun := run_of_error heffect
    have hrun' := run_of_error (h.symm.trans heffect)
    exact ⟨hrun.exitCode.trans hrun'.exitCode.symm, hrun.tree.trans hrun'.tree.symm,
      hrun.stdout.trans hrun'.stdout.symm⟩
  · have hrun := run_of_ok heffect
    have hrun' := run_of_ok (h.symm.trans heffect)
    exact ⟨hrun.exitCode.trans hrun'.exitCode.symm, hrun.tree.trans hrun'.tree.symm,
      hrun.stdout.trans hrun'.stdout.symm⟩

/-! ### What a quiet run says -/

/-- No record is let through. -/
def World.IsMuted (w : World) : Prop :=
  ∀ s, w.log.writes s = false

/-- Where no record is let through, a program says nothing, though it may print and write. -/
def Mute {ε α : Type} (p : Program World ε α) : Prop :=
  ∀ w : World, w.IsMuted → ∃ t out, (answer p w).2 = { w with tree := t, stdout := out }

section

variable {ε ε' α β : Type}

theorem mute_pure (a : α) : Mute (pure a : Program World ε α) :=
  fun _ _ ↦ ⟨_, _, rfl⟩

theorem mute_ofExcept (r : Except ε α) : Mute (ofExcept r : Program World ε α) :=
  fun w _ ↦ ⟨w.tree, w.stdout, by rw [Program.answer_ofExcept]⟩

theorem mute_throw (e : ε) : Mute (throw e : Program World ε α) :=
  fun _ _ ↦ ⟨_, _, rfl⟩

theorem mute_holds (path : Path) : Mute (Host.holds path : Program World ε Bool) :=
  fun _ _ ↦ ⟨_, _, rfl⟩

theorem mute_read (path : Path) :
    Mute (Host.read path : Program World ε (Except FileError ByteArray)) :=
  fun _ _ ↦ ⟨_, _, rfl⟩

theorem mute_write (path : Path) (content : ByteArray) :
    Mute (Host.write path content : Program World ε (Except FileError Unit)) := by
  intro w _
  show ∃ t out, (answer (ExceptT.lift (Host.write path content)) w).2 = _
  rw [Program.answer_lift, World.run_write]
  rcases w.tree.write path content with e | t <;> exact ⟨_, _, rfl⟩

theorem mute_environment : Mute (Host.environment : Program World ε Environment) :=
  fun _ _ ↦ ⟨_, _, rfl⟩

theorem mute_print (text : String) : Mute (Host.print text : Program World ε Unit) :=
  fun _ _ ↦ ⟨_, _, rfl⟩

theorem mute_record (r : Record) : Mute (Host.record r : Program World ε Unit) := by
  intro w hmuted
  have hrecord : w.record r = w := by simp [World.record, hmuted r.severity]
  exact ⟨w.tree, w.stdout, hrecord⟩

namespace Mute

variable {p : Program World ε α}

theorem bind {k : α → Program World ε β} (h : Mute p) (hk : ∀ a, Mute (k a)) :
    Mute (p >>= k) := by
  intro w hmuted
  obtain ⟨t, out, hp⟩ := h w hmuted
  rw [Program.answer_bind]
  rcases hanswer : answer p w with ⟨e | a, w'⟩
  all_goals
    rw [hanswer] at hp
    obtain rfl : w' = _ := hp
  · exact ⟨t, out, rfl⟩
  · obtain ⟨t', out', hw⟩ := hk a { w with tree := t, stdout := out } hmuted
    exact ⟨t', out', hw⟩

theorem adapt (h : Mute p) (f : ε → ε') : Mute (ExceptT.adapt f p) := by
  intro w hmuted
  rw [Program.answer_adapt]
  exact h w hmuted

theorem lift (h : Mute p) : Mute (ExceptT.lift p.run : Program World ε' (Except ε α)) :=
  fun w hmuted ↦ h w hmuted

theorem mapM {γ : Type} {f : γ → Program World ε α} (h : ∀ c, Mute (f c)) (cs : List γ) :
    Mute (cs.mapM f) := by
  induction cs with
  | nil => exact mute_pure []
  | cons c cs ih =>
    rw [List.mapM_cons]
    exact (h c).bind fun a ↦ ih.bind fun as ↦ mute_pure (a :: as)

end Mute

theorem mute_records (rs : List Record) : Mute (Host.records rs : Program World ε Unit) := by
  induction rs with
  | nil => exact mute_pure ()
  | cons r rs ih => exact (mute_record r).bind fun _ ↦ ih

end

theorem Car.mute_load (p : Path) : Mute (Car.load p : Program World Error Car) :=
  (mute_ofExcept _).bind fun _ ↦ (mute_read p).bind fun _ ↦ (mute_ofExcept _).bind fun _ ↦
    (mute_ofExcept _).bind fun _ ↦ (mute_records _).bind fun _ ↦ mute_ofExcept _

theorem Car.mute_save (car : Car) (p : Path) : Mute (car.save p : Program World Error Unit) :=
  (mute_ofExcept _).bind fun _ ↦ (mute_write p _).bind fun _ ↦ (mute_ofExcept _).bind fun _ ↦
    mute_record _

namespace Command

theorem mute_input (p : Path) : Mute (input p : Program World Failure Car) := by
  refine (mute_holds p).bind fun _ ↦ ?_
  split
  · exact (Car.mute_load p).adapt _
  · exact mute_throw _

theorem mute_emit (car : Car) (target : Target) :
    Mute (emit true car target : Program World Failure Unit) := by
  cases target with
  | standard format => exact mute_print _
  | file path => exact ((Car.mute_save car path).adapt _).bind fun _ ↦ mute_pure ()

theorem mute_override (car : Car) : Mute (override car : Program World Failure Car) :=
  mute_environment.bind fun _ ↦ (mute_records _).bind fun _ ↦ (mute_ofExcept _).bind fun _ ↦
    (mute_record _).bind fun _ ↦ mute_pure _

theorem mute_runCreate (id : UInt32) (brand : String) (engine : Engine) (camera : Option Camera)
    (smartphone : Option Smartphone) (adas : Option Adas) (target : Target) :
    Mute (runCreate true id brand engine camera smartphone adas target :
      Program World Failure Unit) :=
  (mute_records _).bind fun _ ↦ (mute_ofExcept _).bind fun _ ↦ (mute_record _).bind fun _ ↦
    mute_emit _ target

theorem mute_runMerge (base : Path) (updates : List Path) (useEnvironment : Bool)
    (target : Target) :
    Mute (runMerge true base updates useEnvironment target : Program World Failure Unit) := by
  refine (mute_input base).bind fun _ ↦ (Mute.mapM mute_input updates).bind fun _ ↦
    (mute_records _).bind fun _ ↦ ?_
  rcases useEnvironment with _ | _
  · exact (mute_pure _).bind fun car ↦ mute_emit car target
  · exact (mute_override _).bind fun car ↦ mute_emit car target

theorem mute_runSet (file : Path) (texts : List String) (target : Target) :
    Mute (runSet false true file texts target : Program World Failure Unit) :=
  (mute_ofExcept _).bind fun _ ↦ (mute_input file).bind fun _ ↦ (mute_records _).bind fun _ ↦
    (mute_ofExcept _).bind fun car ↦ mute_emit car target

theorem mute_runCompletions (wording : Wording) (shell : Shell) :
    Mute (runCompletions wording true shell : Program World Failure Unit) :=
  mute_print _

end Command

/-- Where no record is let through, a program that succeeds has said nothing. -/
def Hushed {ε α : Type} (p : Program World ε α) : Prop :=
  ∀ (w w' : World) (a : α), w.IsMuted → answer p w = (.ok a, w') → w'.stderr = w.stderr

theorem Mute.hushed {ε α : Type} {p : Program World ε α} (h : Mute p) : Hushed p := by
  intro w w' a hmuted hanswer
  obtain ⟨t, out, hp⟩ := h w hmuted
  rw [hanswer] at hp
  obtain rfl : w' = _ := hp
  rfl

theorem Mute.bind_hushed {ε α β : Type} {p : Program World ε α} {k : α → Program World ε β}
    (h : Mute p) (hk : ∀ a, Hushed (k a)) : Hushed (p >>= k) := by
  intro w w' b hmuted hanswer
  obtain ⟨t, out, hp⟩ := h w hmuted
  rw [Program.answer_bind] at hanswer
  rcases hfirst : answer p w with ⟨e | a, w₁⟩
  all_goals
    rw [hfirst] at hp hanswer
    obtain rfl : w₁ = _ := hp
  · cases hanswer
  · exact hk a { w with tree := t, stdout := out } w' b hmuted hanswer

/-- A validation has words only for a file that it finds bad. -/
theorem Command.hushed_runValidate (file : Path) :
    Hushed (runValidate true file : Program World Failure Unit) := by
  refine (mute_holds file).bind_hushed fun b ↦ ?_
  rcases b with _ | _
  · rintro w w' a - ⟨⟩
  · refine (Car.mute_load file).lift.bind_hushed fun r ↦ ?_
    rcases r with e | car
    · show Hushed (if e.isDocument || e.isRejection then _ else _)
      split <;> rintro w w' a - ⟨⟩
    · exact ((mute_record _).bind fun _ ↦ mute_pure ()).hushed

namespace Invocation

/-- A quiet command that succeeds says nothing. -/
theorem hushed_execute {inv : Invocation} (hquiet : inv.quiet = true)
    (hverbose : inv.verbose = false) (wording : Wording) :
    Hushed (inv.execute wording : Program World Failure Unit) := by
  obtain ⟨verbose, quiet, command⟩ := inv
  obtain rfl : quiet = true := hquiet
  obtain rfl : verbose = false := hverbose
  cases command with
  | create id brand engine camera smartphone adas target =>
    exact (Command.mute_runCreate id brand engine camera smartphone adas target).hushed
  | merge base updates useEnvironment target =>
    exact (Command.mute_runMerge base updates useEnvironment target).hushed
  | set file texts target => exact (Command.mute_runSet file texts target).hushed
  | validate file => exact Command.hushed_runValidate file
  | completions shell => exact (Command.mute_runCompletions wording shell).hushed

/-- A quiet run that succeeds says nothing: the records that it makes are not let through. -/
theorem stderr_run {inv : Invocation} (hquiet : inv.quiet = true) (hverbose : inv.verbose = false)
    {wording : Wording} {env : Environment} {t : Tree}
    (h : (inv.run wording env t).exitCode = 0) : (inv.run wording env t).stderr = "" := by
  have hverbosity : inv.verbosity env = .quiet := by
    simp [verbosity, Verbosity.resolve, hquiet, hverbose]
  let start : World := { tree := t, environment := env, log := ({} : Log).start .quiet }
  have hmuted : start.IsMuted := fun _ ↦ rfl
  have hshut : ¬ start.log.writes .debug = true := by
    simp [start, Log.writes, Log.start, Verbosity.ceiling, Ceiling.admits]
  have hstarted : inv.started t env = start := by
    rw [started, hverbosity]
    exact if_neg hshut
  rw [run_eq, hstarted] at h ⊢
  rcases hanswer : answer (inv.execute wording) start with ⟨e | _, w⟩
  all_goals rw [hanswer] at h
  · exact absurd h e.exitCode_ne_zero
  · exact hushed_execute hquiet hverbose wording start w () hmuted hanswer

end Invocation

/-! ### Command lines -/

open Arguments

/-- What a command line does: what it asks for or, if there is no command, the answer to that. -/
def Outcome.ofArguments (args : List String) (wording : Wording) (env : Environment) (t : Tree) :
    Outcome :=
  match Invocation.parse args with
  | .ok inv => inv.run wording env t
  | .error stop => ⟨stop.exitCode, stop.stdout wording, stop.stderr wording, t⟩

/-- A quiet command line that succeeds says nothing. -/
theorem Outcome.stderr_ofArguments {args : List String} {wording : Wording} {env : Environment}
    {t : Tree} (hquiet : "--quiet" ∈ options args) (hverbose : "--verbose" ∉ options args)
    (h : (ofArguments args wording env t).exitCode = 0) :
    (ofArguments args wording env t).stderr = "" := by
  unfold ofArguments at h ⊢
  rcases hparse : Invocation.parse args with stop | inv
  · rw [hparse] at h
    rcases stop with _ | _ | _
    · rfl
    · rfl
    · cases h
  · rw [hparse] at h
    obtain ⟨-, hverbose', hquiet'⟩ := Invocation.parse_unflagged hparse
    exact Invocation.stderr_run (by simpa [hquiet'] using hquiet)
      (by simpa [hverbose'] using hverbose) h

/-- Without the flags on verbosity, a command line that was read asks for the same command. -/
theorem Invocation.command_eq_of_unflagged {args args' : List String} {inv inv' : Invocation}
    (h : parse args = .ok inv) (h' : parse args' = .ok inv')
    (hargs : unflagged args = unflagged args') : inv.command = inv'.command := by
  have hbare := (parse_unflagged h).1
  have hbare' := (parse_unflagged h').1
  rw [hargs, hbare'] at hbare
  injection hbare with heq
  injection heq with _ _ hcommand
  exact hcommand.symm

/-- Two runs of a command leave the same exit code, files and standard output. But a validation
prints its approval, which it does if and only if it succeeds and is not told to be quiet. -/
structure Outcome.Steady (c : Command) (quiet quiet' : Bool) (o o' : Outcome) : Prop where
  /-- The exit code is the same. -/
  exitCode : o.exitCode = o'.exitCode
  /-- The files are the same. -/
  tree : o.tree = o'.tree
  /-- The standard output is the same, up to the approval of a validation. -/
  stdout : match c with
    | .validate _ =>
      o.stdout = (if o.exitCode = 0 ∧ quiet = false then "Configuration is valid\n" else "") ∧
        o'.stdout = (if o'.exitCode = 0 ∧ quiet' = false then "Configuration is valid\n" else "")
    | _ => o.stdout = o'.stdout

namespace Invocation

/-- A validation prints its approval if it succeeds and is not quiet. -/
theorem stdout_validate (verbose quiet : Bool) (file : Path) (wording : Wording)
    (env : Environment) (t : Tree) :
    let o := Invocation.run ⟨verbose, quiet, .validate file⟩ wording env t
    o.stdout = if o.exitCode = 0 ∧ quiet = false then "Configuration is valid\n" else "" := by
  intro o
  have hrun := run_validate verbose quiet file wording env t
  rcases hload : Command.load t file with e | car
  all_goals rw [hload] at hrun
  · replace hrun : o.FailsWith t e.judged := hrun
    simp [hrun.stdout, hrun.nonzero]
  · replace hrun : o.Leaves (Command.approval quiet) t := hrun
    rw [hrun.stdout, hrun.exitCode, Command.approval]
    rcases quiet with _ | _ <;> rfl

/-- The exit code and the files of a validation depend on the tree only. -/
theorem run_validate_congr (verbose verbose' quiet quiet' : Bool) (file : Path)
    (wording : Wording) (env env' : Environment) (t : Tree) :
    let o := Invocation.run ⟨verbose, quiet, .validate file⟩ wording env t
    let o' := Invocation.run ⟨verbose', quiet', .validate file⟩ wording env' t
    o.exitCode = o'.exitCode ∧ o.tree = o'.tree := by
  intro o o'
  have hrun := run_validate verbose quiet file wording env t
  have hrun' := run_validate verbose' quiet' file wording env' t
  rcases hload : Command.load t file with e | car
  all_goals rw [hload] at hrun hrun'
  · exact ⟨hrun.exitCode.trans hrun'.exitCode.symm, hrun.tree.trans hrun'.tree.symm⟩
  · exact ⟨hrun.exitCode.trans hrun'.exitCode.symm, hrun.tree.trans hrun'.tree.symm⟩

/-- Two runs of one command leave the same, if they see the same overrides or do not look. -/
theorem run_steady {inv inv' : Invocation} (hcommand : inv.command = inv'.command)
    {env env' : Environment} (henv : inv.command.consults = true → env.OverridesAlike env')
    (wording : Wording) (t : Tree) :
    Outcome.Steady inv.command inv.quiet inv'.quiet (inv.run wording env t)
      (inv'.run wording env' t) := by
  by_cases hvalidate : ∃ file, inv.command = .validate file
  · obtain ⟨verbose, quiet, command⟩ := inv
    obtain ⟨verbose', quiet', command'⟩ := inv'
    obtain ⟨file, rfl : command = .validate file⟩ := hvalidate
    obtain rfl : .validate file = command' := hcommand
    obtain ⟨hexit, htree⟩ :=
      run_validate_congr verbose verbose' quiet quiet' file wording env env' t
    exact ⟨hexit, htree, stdout_validate verbose quiet file wording env t,
      stdout_validate verbose' quiet' file wording env' t⟩
  · have heffect : inv.effect wording t env = inv'.effect wording t env' := by
      rw [effect, effect, ← hcommand]
      exact Command.effect_congr (fun h ↦ (henv h).overrides) (fun file h ↦ hvalidate ⟨file, h⟩)
        wording inv.quiet inv'.quiet t
    obtain ⟨hexit, htree, hstdout⟩ := run_congr heffect
    refine ⟨hexit, htree, ?_⟩
    split
    · next file h => exact absurd ⟨file, h⟩ hvalidate
    · exact hstdout

end Invocation

/-- **The flags on verbosity and stray variables do not change what a run leaves.** Two runs of one
command leave the same exit code, the same files and the same standard output, whatever the
environments are, unless the command looks at them and they override fields in different ways; but a
validation prints its approval if and only if it succeeds and is not told to be quiet. A quiet run
that succeeds leaves nothing on standard error. Both hold for all invocations, whether or not their
paths are text, and for command lines that are the same without the flags on verbosity. -/
theorem Outcome.ofArguments_steady (wording : Wording) (t : Tree) :
    (∀ (inv inv' : Invocation) (env env' : Environment), inv.command = inv'.command →
      (inv.command.consults = true → env.OverridesAlike env') →
        Steady inv.command inv.quiet inv'.quiet (inv.run wording env t)
          (inv'.run wording env' t)) ∧
    (∀ (inv : Invocation) (env : Environment), inv.quiet = true → inv.verbose = false →
      (inv.run wording env t).exitCode = 0 → (inv.run wording env t).stderr = "") ∧
    (∀ (args args' : List String) (env env' : Environment) (inv inv' : Invocation),
      Invocation.parse args = .ok inv → Invocation.parse args' = .ok inv' →
      unflagged args = unflagged args' →
      (inv.command.consults = true → env.OverridesAlike env') →
        Steady inv.command ("--quiet" ∈ options args) ("--quiet" ∈ options args')
          (ofArguments args wording env t) (ofArguments args' wording env' t)) ∧
    ∀ (args : List String) (env : Environment), "--quiet" ∈ options args →
      "--verbose" ∉ options args → (ofArguments args wording env t).exitCode = 0 →
        (ofArguments args wording env t).stderr = "" := by
  refine ⟨fun _ _ _ _ hcommand henv ↦ Invocation.run_steady hcommand henv wording t,
    fun _ _ hquiet hverbose h ↦ Invocation.stderr_run hquiet hverbose h, ?_,
    fun _ _ hquiet hverbose h ↦ stderr_ofArguments hquiet hverbose h⟩
  intro args args' env env' inv inv' hparse hparse' hargs henv
  have hcommand := Invocation.command_eq_of_unflagged hparse hparse' hargs
  have hsteady := Invocation.run_steady hcommand henv wording t
  rw [(Invocation.parse_unflagged hparse).2.2, (Invocation.parse_unflagged hparse').2.2] at hsteady
  simpa [ofArguments, hparse, hparse'] using hsteady

/-- A validation that is told to be quiet, and the same one that is told to be verbose, whose
environment has other variables. -/
theorem Outcome.ofArguments_steady_validate :
    let t := ({} : Tree).put (.ofText "srv/a.yml")
      (.file "id: 7\nbrand: Audi\nengine: lng\n".toUTF8)
    let wording : Wording := ⟨"", fun _ ↦ ""⟩
    let o := ofArguments ["--quiet", "validate", "/srv/a.yml"] wording
      ⟨[("CARCONF_LOG_MODE", "verbose"), ("CARCONF_ID", "0")]⟩ t
    let o' := ofArguments ["validate", "/srv/a.yml", "--verbose"] wording {} t
    o.exitCode = 0 ∧ o'.exitCode = 0 ∧ o.tree = o'.tree ∧ o.stdout = "" ∧
      o'.stdout = "Configuration is valid\n" ∧ o.stderr = "" := by
  intro t wording o o'
  have hparse : Invocation.parse ["--quiet", "validate", "/srv/a.yml"] =
      .ok ⟨false, true, .validate (.ofText "/srv/a.yml")⟩ := by
    refine Invocation.parse_eq_ok_iff.2 ⟨{ quiet := true }, "validate", ["/srv/a.yml"], .validate,
      { operands := ["/srv/a.yml"] }, ?_, by decide +kernel, by decide, ?_, _, rfl, rfl⟩
    · have hlead : ["--quiet", "validate", "/srv/a.yml"].takeWhile Invocation.isLeading =
          ["--quiet"] := by decide +kernel
      rw [hlead]
      simp [Item.ofArguments, Item.ofArguments.follow, Item.ofLong, Key.leading, Key.long,
        Key.takesValue]
      rfl
    · simp [Item.ofArguments]
      rfl
  have hparse' : Invocation.parse ["validate", "/srv/a.yml", "--verbose"] =
      .ok ⟨true, false, .validate (.ofText "/srv/a.yml")⟩ := by
    refine Invocation.parse_eq_ok_iff.2 ⟨{}, "validate", ["/srv/a.yml", "--verbose"], .validate,
      { operands := ["/srv/a.yml"], verbose := true }, ?_, by decide +kernel, by decide, ?_, _,
      rfl, rfl⟩
    · have hlead : ["validate", "/srv/a.yml", "--verbose"].takeWhile Invocation.isLeading = [] := by
        decide +kernel
      rw [hlead]
      simp [Item.ofArguments]
      rfl
    · simp [Item.ofArguments, Item.ofArguments.follow, Item.ofLong, Verb.keys, Key.long,
        Key.takesValue]
      rfl
  have hzero : o.exitCode = 0 := by
    simp only [o, ofArguments, hparse]
    decide +kernel
  obtain ⟨-, -, hsame, hquiet⟩ := ofArguments_steady wording t
  have hsteady := hsame ["--quiet", "validate", "/srv/a.yml"]
    ["validate", "/srv/a.yml", "--verbose"]
    ⟨[("CARCONF_LOG_MODE", "verbose"), ("CARCONF_ID", "0")]⟩ {} _ _ hparse hparse' (by decide)
    (by simp [Command.consults])
  obtain ⟨hstdout, hstdout'⟩ := hsteady.stdout
  have hzero' : o'.exitCode = 0 := hsteady.exitCode.symm.trans hzero
  exact ⟨hzero, hzero', hsteady.tree, hstdout.trans (if_neg fun h ↦ absurd h.2 (by decide)),
    hstdout'.trans (if_pos ⟨hzero', by decide⟩), hquiet _ _ (by decide) (by decide) hzero⟩

end Fitout
