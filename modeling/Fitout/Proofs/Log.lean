import Fitout.Log
import Fitout.Proofs.Text.Lowercase

/-!
# The latest start of a log decides

There are two gates that a record must pass: the sink, which is installed by the first start and
keeps its verbosity, and the ceiling, which every start sets. The sink takes everything, so a log
that was started is as if its latest start were the only one (`Log.InForce.after_eq`), and what is
written is decided by this start alone (`Log.writes_after_iff`).
-/

namespace Fitout

/-! ### The verbosity that a start chooses -/

namespace Verbosity

/-- A text names a verbosity, in any case of ASCII letters. -/
def IsNamed (v : Verbosity) (s : String) : Prop :=
  s.toList.map Char.toLower = v.name.toList

/-- The verbosity that two flags and an environment choose. -/
inductive IsChosen : Bool → Bool → Environment → Verbosity → Prop
  /-- The flag `verbose` wins. -/
  | verbose (quietFlag : Bool) (env : Environment) : IsChosen true quietFlag env .verbose
  /-- The flag `quiet` comes next. -/
  | quiet (env : Environment) : IsChosen false true env .quiet
  /-- The variable counts without flags, if it names a verbosity. -/
  | named {env : Environment} {s : String} {v : Verbosity} (hs : env.get? variableName = some s)
      (hv : v.IsNamed s) : IsChosen false false env v
  /-- Nothing else is said. -/
  | standard {env : Environment}
      (h : ∀ s, env.get? variableName = some s → ∀ v : Verbosity, ¬ v.IsNamed s) :
      IsChosen false false env .normal

/-- The names of verbosities have no letter that some other character becomes in lower case. -/
theorem ofName?_eq_some_iff {s : String} {v : Verbosity} : ofName? s = some v ↔ v.IsNamed s := by
  have hword : v.name.toList.all (fun d ↦ d.toNat < 0x80 && d != 'k') = true := by
    cases v <;> decide
  rw [IsNamed, ← Text.lowercaseAll_eq_iff fun d hd ↦ by simpa using List.all_eq_true.1 hword d hd,
    ofName?]
  constructor
  · intro h
    have hname := List.find?_some h
    exact (beq_iff_eq.1 hname).symm
  · intro h
    rw [h]
    cases v <;> decide

variable {verboseFlag quietFlag : Bool} {env : Environment} {v : Verbosity}

theorem isChosen_resolve (verboseFlag quietFlag : Bool) (env : Environment) :
    IsChosen verboseFlag quietFlag env (resolve verboseFlag quietFlag env) := by
  cases verboseFlag with
  | true => exact .verbose quietFlag env
  | false =>
    cases quietFlag with
    | true => exact .quiet env
    | false =>
      show IsChosen false false env (((env.get? variableName).bind ofName?).getD standard)
      rcases h : (env.get? variableName).bind ofName? with - | v
      · refine .standard fun s hs v hv ↦ ?_
        rw [hs, Option.bind_some, ofName?_eq_some_iff.2 hv] at h
        cases h
      · obtain ⟨s, hs, hv⟩ := Option.bind_eq_some_iff.1 h
        exact .named hs (ofName?_eq_some_iff.1 hv)

theorem IsChosen.unique {w : Verbosity} (hv : IsChosen verboseFlag quietFlag env v)
    (hw : IsChosen verboseFlag quietFlag env w) : v = w := by
  cases hv with
  | verbose | quiet =>
    cases hw
    rfl
  | named hs hv =>
    cases hw with
    | named ht hw =>
      obtain rfl := Option.some.inj (hs.symm.trans ht)
      exact Option.some.inj ((ofName?_eq_some_iff.2 hv).symm.trans (ofName?_eq_some_iff.2 hw))
    | standard h => exact absurd hv (h _ hs _)
  | standard h =>
    cases hw with
    | named ht hw => exact absurd hw (h _ ht _)
    | standard => rfl

theorem isChosen_iff :
    IsChosen verboseFlag quietFlag env v ↔ resolve verboseFlag quietFlag env = v := by
  constructor
  · exact fun h ↦ (isChosen_resolve verboseFlag quietFlag env).unique h
  · rintro rfl
    exact isChosen_resolve verboseFlag quietFlag env

end Verbosity

namespace Log

variable {log : Log} {events : List Event} {v w : Verbosity} {s : Severity} {r : Record}

/-! ### The sink -/

/-- The sink of a log takes everything, if there is one. -/
def TakesAll (log : Log) : Prop :=
  log.sink = none ∨ log.sink = some .verbose

/-- Whatever was started before, a start leaves the same log. -/
theorem TakesAll.start_eq (h : log.TakesAll) (v : Verbosity) :
    log.start v = ({} : Log).start v := by
  rcases h with hsink | hsink <;> rw [start, hsink] <;> rfl

theorem TakesAll.step (h : log.TakesAll) (e : Event) : (log.step e).2.TakesAll := by
  cases e with
  | start verboseFlag quietFlag env =>
    show (log.start _).TakesAll
    rw [h.start_eq]
    exact .inr rfl
  | record r => exact h

theorem TakesAll.run (h : log.TakesAll) (events : List Event) :
    (Steps.run Log.step log events).2.TakesAll := by
  induction events generalizing log with
  | nil => exact h
  | cons e events ih => exact ih (h.step e)

theorem takesAll_after (events : List Event) : (after events).TakesAll :=
  TakesAll.run (.inl rfl) events

/-- Every severity passes the sink of a log that was started. -/
theorem writes_start (v : Verbosity) (s : Severity) :
    (({} : Log).start v).writes s = v.admits s := by
  have hsink : Verbosity.verbose.admits s = true := by
    cases s <;> rfl
  show (v.admits s && Verbosity.verbose.admits s) = v.admits s
  rw [hsink, Bool.and_true]

/-- From a start on, everything is as if nothing had been before. -/
theorem TakesAll.run_start (h : log.TakesAll) (verboseFlag quietFlag : Bool) (env : Environment)
    (later : List Event) :
    Steps.run Log.step log (.start verboseFlag quietFlag env :: later) =
      Steps.run Log.step {} (.start verboseFlag quietFlag env :: later) := by
  simp only [Steps.run_cons, Log.step, h.start_eq]

/-- Records leave the log as it is. -/
theorem run_records (h : ∀ e ∈ events, ∃ r, e = .record r) (log : Log) :
    (Steps.run step log events).2 = log := by
  induction events with
  | nil => rfl
  | cons e events ih =>
    obtain ⟨⟨r, rfl⟩, hrest⟩ := List.forall_mem_cons.1 h
    exact ih hrest

/-! ### The latest start -/

/-- A verbosity is in force after some events if the latest start among them chose it. -/
inductive InForce : List Event → Verbosity → Prop
  | mk (earlier : List Event) {later : List Event} {verboseFlag quietFlag : Bool}
      {env : Environment} {v : Verbosity}
      (hv : Verbosity.IsChosen verboseFlag quietFlag env v)
      (hlater : ∀ e ∈ later, ∃ r, e = .record r) :
      InForce (earlier ++ .start verboseFlag quietFlag env :: later) v

/-- If no start was made there are only records. -/
theorem exists_inForce_or (events : List Event) :
    (∃ v, InForce events v) ∨ ∀ e ∈ events, ∃ r, e = .record r := by
  induction events with
  | nil => exact .inr nofun
  | cons e events ih =>
    rcases ih with ⟨v, ⟨earlier, hv, hlater⟩⟩ | hrecords
    · exact .inl ⟨v, .mk (e :: earlier) hv hlater⟩
    · cases e with
      | start verboseFlag quietFlag env =>
        exact .inl ⟨_, .mk [] (Verbosity.isChosen_resolve _ _ _) hrecords⟩
      | record r => exact .inr (List.forall_mem_cons.2 ⟨⟨r, rfl⟩, hrecords⟩)

/-- The log is as if the latest start were the only event. -/
theorem InForce.after_eq (h : InForce events v) : after events = ({} : Log).start v := by
  obtain ⟨earlier, hv, hlater⟩ := h
  obtain rfl := Verbosity.isChosen_iff.1 hv
  have hstart := (takesAll_after earlier).run_start
  rw [after, Steps.run_append]
  show (Steps.run step (after earlier) _).2 = _
  rw [hstart, Steps.run_cons, run_records hlater]
  rfl

/-- Records are written if the latest start lets them through, and without a start none is. -/
theorem writes_after_iff :
    (after events).writes s = true ↔ ∃ v, InForce events v ∧ v.admits s = true := by
  rcases exists_inForce_or events with ⟨v, hv⟩ | hrecords
  · rw [hv.after_eq, writes_start]
    constructor
    · exact fun h ↦ ⟨v, hv, h⟩
    · rintro ⟨w, hw, h⟩
      have heq : ({} : Log).start w = ({} : Log).start v := hw.after_eq.symm.trans hv.after_eq
      rwa [← writes_start, ← heq, writes_start]
  · rw [after, run_records hrecords]
    refine iff_of_false Bool.false_ne_true ?_
    rintro ⟨v, ⟨earlier, -, -⟩, -⟩
    obtain ⟨r, hr⟩ := hrecords (.start _ _ _) (List.mem_append_right _ List.mem_cons_self)
    cases hr

/-! ### What comes of each event -/

/-- What comes of an event is found at its place, and is decided by the log of the moment. -/
theorem getElem?_effects (earlier : List Event) (e : Event) (later : List Event) :
    (effects (earlier ++ e :: later))[earlier.length]? = some ((after earlier).step e).1 := by
  rw [effects, Steps.getElem?_run]
  rfl

theorem drop_effects (earlier : List Event) (verboseFlag quietFlag : Bool) (env : Environment)
    (later : List Event) :
    (effects (earlier ++ .start verboseFlag quietFlag env :: later)).drop earlier.length =
      effects (.start verboseFlag quietFlag env :: later) := by
  have hstart := (takesAll_after earlier).run_start verboseFlag quietFlag env later
  rw [effects, Steps.run_append, effects, ← hstart]
  exact List.drop_left' (Steps.length_run _ _)

/-- **The latest start decides.** A start gives the verbosity that its own flags and environment
choose and sets the ceiling to that of this verbosity, and from then on everything is as if it were
the first. A record is written exactly if there was a start before it, and the verbosity that the
latest one chose lets the record through. -/
theorem effects_follow_latest (events : List Event) :
    (∀ earlier verboseFlag quietFlag env later,
      events = earlier ++ .start verboseFlag quietFlag env :: later →
        (∃ v, Verbosity.IsChosen verboseFlag quietFlag env v ∧
          (effects events)[earlier.length]? = some (.started v) ∧
          (after (earlier ++ [.start verboseFlag quietFlag env])).ceiling = v.ceiling) ∧
        (effects events).drop earlier.length =
          effects (.start verboseFlag quietFlag env :: later)) ∧
    ∀ earlier r later, events = earlier ++ .record r :: later →
      ((effects events)[earlier.length]? = some (.written r.line) ↔
        ∃ v, InForce earlier v ∧ v.admits r.severity = true) ∧
      ((effects events)[earlier.length]? = some .dropped ↔
        ∀ v, InForce earlier v → v.admits r.severity = false) := by
  constructor
  · rintro earlier verboseFlag quietFlag env later rfl
    refine ⟨⟨_, Verbosity.isChosen_resolve verboseFlag quietFlag env, getElem?_effects _ _ _, ?_⟩,
      drop_effects _ _ _ _ _⟩
    rw [after, Steps.run_append]
    rfl
  · rintro earlier r later rfl
    have heffect : (effects (earlier ++ .record r :: later))[earlier.length]? =
        some (if (after earlier).writes r.severity then .written r.line else .dropped) :=
      getElem?_effects _ _ _
    have hdropped : (∀ v, InForce earlier v → v.admits r.severity = false) ↔
        (after earlier).writes r.severity = false := by
      rw [← Bool.not_eq_true, writes_after_iff]
      simp
    rw [← writes_after_iff, hdropped, heffect]
    rcases (after earlier).writes r.severity with _ | _ <;> simp

/-- A quiet start is followed by one that a variable makes verbose. -/
theorem effects_follow_latest_quiet_verbose :
    let env : Environment := ⟨[("CARCONF_LOG_MODE", "VERBOSE")]⟩
    let r : Record := ⟨.trace, "unset camera"⟩
    let events : List Event := [.start false true env, .start false false env, .record r]
    (∃ v, Verbosity.IsChosen false true env v ∧ (effects events)[0]? = some (.started v)) ∧
      (effects events)[2]? = some (.written "TRACE: unset camera") := by
  intro env r events
  obtain ⟨hstart, hrecord⟩ := effects_follow_latest events
  obtain ⟨⟨v, hv, hquiet, -⟩, -⟩ := hstart [] false true env _ rfl
  have hverbose : InForce [.start false true env, .start false false env] .verbose :=
    .mk [.start false true env] (.named rfl rfl) nofun
  exact ⟨⟨v, hv, hquiet⟩, (hrecord [_, _] r [] rfl).1.2 ⟨_, hverbose, rfl⟩⟩

end Log

end Fitout
