import Fitout.Proofs.Command.Arguments
import Fitout.Proofs.Command.Outcome

/-!
# What a run may change

Nothing that a command does before it fails can be seen but for what it says, in whatever world it
is carried out (`Invocation.does_execute`); and if it succeeds, it has printed, or it has written
the file that it was told to write (`Command.effect_confined`). So a failed run leaves nothing on
standard output and the files as they were, and a run that succeeds changes at most the file that
its command line names (`Invocation.run_confined`).
-/

namespace Fitout

open Program (answer)

/-! ### Where a configuration goes -/

/-- The file that a configuration is to be written into, if it is. -/
def Target.output? : Target → Option Path
  | .standard _ => none
  | .file path => some path

/-- The file that a command may write: the output of a create or a merge, and that of a set, which
is the file that is set in place (`Command.WritesBack`). -/
def Command.output? : Command → Option Path
  | .create _ _ _ _ _ _ target | .merge _ _ _ target | .set _ _ target => target.output?
  | .validate _ | .completions _ => none

/-- What may be left of a tree if a file, or none, may be written: the file is written, and nothing
is printed, or the tree is the same. -/
def Confined (t : Tree) (text : String) (after : Tree) : Option Path → Prop
  | some path => text = "" ∧ ∃ content, t.write path content = .ok after
  | none => after = t

theorem Target.Receives.confined {target : Target} {t after : Tree} {car : Car} {text : String}
    (h : target.Receives t car text after) : Confined t text after target.output? := by
  cases target with
  | standard format => exact h.2
  | file path =>
    obtain ⟨htext, _, -, hwrite, -⟩ := h
    exact ⟨htext, _, hwrite⟩

/-- A file is written, and the places to which its path does not lead are as before. -/
theorem Confined.entry_eq {t after : Tree} {text : String} {path : Path}
    (h : Confined t text after (some path)) {q : Place} (hq : t.locate path ≠ .ok q) :
    after.entry? q = t.entry? q := by
  obtain ⟨-, content, hwrite⟩ := h
  obtain ⟨p, hp, -⟩ := Tree.write_eq_ok_iff.1 hwrite
  obtain ⟨hlocate, -⟩ := Tree.destination_eq_ok_iff.1 hp
  have hne : q ≠ p := fun heq ↦ hq (heq ▸ hlocate)
  exact (Tree.entry_of_write hwrite hlocate q).trans (if_neg hne)

/-- Whatever comes of a command, it keeps to the file that the command may write. -/
theorem Command.effect_confined {c : Command} {wording : Wording} {quiet : Bool} {t after : Tree}
    {env : Environment} {text : String} (h : c.effect wording quiet t env = .ok (text, after)) :
    Confined t text after c.output? := by
  have hemitted {car : Car} {target : Target} (h : emitted t car target = .ok (text, after)) :
      Confined t text after target.output? :=
    (emitted_eq_ok_iff.1 h).confined
  cases c with
  | create id brand engine camera smartphone adas target =>
    obtain ⟨_, -, h⟩ := Except.bind_eq_ok_iff.1 h
    exact hemitted h
  | merge base updates useEnvironment target =>
    obtain ⟨_, -, h⟩ := Except.bind_eq_ok_iff.1 h
    obtain ⟨_, -, h⟩ := Except.bind_eq_ok_iff.1 h
    rcases useEnvironment with _ | _
    all_goals
      obtain ⟨_, -, h⟩ := Except.bind_eq_ok_iff.1 h
      exact hemitted h
  | set file texts target =>
    obtain ⟨_, -, h⟩ := Except.bind_eq_ok_iff.1 h
    obtain ⟨_, -, h⟩ := Except.bind_eq_ok_iff.1 h
    obtain ⟨_, -, h⟩ := Except.bind_eq_ok_iff.1 h
    exact hemitted h
  | validate file =>
    obtain ⟨_, -, h⟩ := Except.map_eq_ok_iff.1 h
    cases h
    rfl
  | completions shell =>
    cases h
    rfl

namespace Invocation

/-- A command that fails has done nothing but say something, whatever world it was carried out in
and whatever was printed there before. -/
theorem exists_say_of_error {inv : Invocation} {wording : Wording} {w w' : World} {e : Failure}
    (h : answer (inv.execute wording) w = (.error e, w')) : ∃ said, w' = w.say said := by
  obtain ⟨said, hanswer⟩ := inv.does_execute wording w.tree w.environment w ⟨rfl, rfl⟩
  rw [h] at hanswer
  rcases heffect : inv.effect wording w.tree w.environment with e' | out
  all_goals rw [heffect] at hanswer
  · exact ⟨said, (Prod.mk.inj hanswer).2⟩
  · cases (Prod.mk.inj hanswer).1

/-- **A run fails closed and writes only its target.** The exit code is one of five. A failed run
leaves nothing on standard output and the files as they were, since its command has done nothing,
whatever world it is carried out in. What a run changes that succeeds is at most the output of a
create or a merge, or of a set; and a set that was read from a command line writes no file but the
one that it reads. -/
theorem run_confined (inv : Invocation) (wording : Wording) (env : Environment) (t : Tree) :
    let o := inv.run wording env t
    o.exitCode ∈ [0, 1, 4, 5, 7] ∧
      (o.exitCode ≠ 0 → o.stdout = "" ∧ o.tree = t) ∧
      (match inv.command.output? with
        | some path => (o.exitCode = 0 → ∃ content, t.write path content = .ok o.tree) ∧
          ∀ q, t.locate path ≠ .ok q → o.tree.entry? q = t.entry? q
        | none => o.tree = t) ∧
      (∀ args, parse args = .ok inv → inv.command.WritesBack) ∧
      ∀ (w w' : World) (e : Failure), answer (inv.execute wording) w = (.error e, w') →
        ∃ said, w' = w.say said := by
  intro o
  refine ⟨?_, ?_, ?_, fun _ ↦ writesBack_of_parse, fun _ _ _ ↦ exists_say_of_error⟩
  all_goals rcases heffect : inv.effect wording t env with e | ⟨text, after⟩
  · exact (run_of_error heffect).exitCode ▸ List.mem_cons_of_mem 0 e.exitCode_mem
  · exact (run_of_ok heffect).exitCode ▸ List.mem_cons_self
  · exact fun _ ↦ ⟨(run_of_error heffect).stdout, (run_of_error heffect).tree⟩
  · exact fun hne ↦ absurd (run_of_ok heffect).exitCode hne
  · have hrun : o.FailsWith t e := run_of_error heffect
    rw [hrun.tree]
    split
    · exact ⟨fun hzero ↦ absurd hzero hrun.nonzero, fun _ _ ↦ rfl⟩
    · rfl
  · have hrun : o.Leaves text after := run_of_ok heffect
    have hconfined := Command.effect_confined heffect
    rw [hrun.tree]
    split
    · next path hpath =>
      rw [hpath] at hconfined
      exact ⟨fun _ ↦ hconfined.2, fun _ ↦ hconfined.entry_eq⟩
    · next hnone =>
      rw [hnone] at hconfined
      exact hconfined

/-- A set in place, which changes no other file than its own, and the same set where no file may be
written. It fails in its last step and takes nothing away of what was printed before it. -/
theorem run_confined_set_in_place :
    let file : Path := .ofText "/srv/a.yml"
    let inv : Invocation := ⟨false, false, .set file ["camera=rear"] (.file file)⟩
    let t := ({} : Tree).put (.ofText "srv/a.yml")
      (.file "id: 7\nbrand: Audi\nengine: lng\n".toUTF8)
    let locked : Tree :=
      { t with refusal := fun a _ ↦ if a = .write then some .denied else none }
    let wording : Wording := ⟨"", fun _ ↦ ""⟩
    let done := inv.run wording {} t
    let failed := inv.run wording {} locked
    let later := (answer (inv.execute wording) { tree := locked, stdout := "earlier" : World }).2
    (parse ["set", "/srv/a.yml", "camera=rear", "-i"] = .ok inv ∧ inv.command.WritesBack) ∧
      (done.exitCode = 0 ∧ ∀ q, t.locate file ≠ .ok q → done.tree.entry? q = t.entry? q) ∧
      (failed.exitCode = 5 ∧ failed.stdout = "" ∧ failed.tree = locked) ∧
      later.stdout = "earlier" ∧ later.tree = locked := by
  intro file inv t locked wording done failed later
  have hitems : Item.ofArguments Verb.set.keys ["/srv/a.yml", "camera=rear", "-i"] =
      [.operand "/srv/a.yml", .operand "camera=rear", .flag .inPlace] := by
    simp [Item.ofArguments, Item.ofArguments.follow, Item.ofShort, Verb.keys, Key.short?,
      Key.takesValue]
  have hparse : parse ["set", "/srv/a.yml", "camera=rear", "-i"] = .ok inv := by
    have hnone : Item.ofArguments Key.leading [] = [] := by simp [Item.ofArguments]
    have hlead : ["set", "/srv/a.yml", "camera=rear", "-i"].takeWhile isLeading = [] := by
      decide +kernel
    have hdrop : ["set", "/srv/a.yml", "camera=rear", "-i"].dropWhile isLeading =
        ["set", "/srv/a.yml", "camera=rear", "-i"] := by decide +kernel
    unfold parse
    rw [hlead, hdrop, hnone]
    show Except.bind ((Item.ofArguments Verb.set.keys
      ["/srv/a.yml", "camera=rear", "-i"]).foldlM (Gathered.take .set) {}) _ = _
    rw [hitems]
    rfl
  have hexit : done.exitCode = 0 ∧ failed.exitCode = 5 := by decide +kernel
  have hlater : (answer (inv.execute wording)
      { tree := locked, stdout := "earlier" : World }).1.isOk = false := by decide +kernel
  obtain ⟨-, -, ⟨-, hframe⟩, hback, -⟩ := run_confined inv wording {} t
  obtain ⟨-, hclosed, -, -, hworld⟩ := run_confined inv wording {} locked
  have hnonzero : failed.exitCode ≠ 0 := by simp [hexit.2]
  refine ⟨⟨hparse, hback _ hparse⟩, ⟨hexit.1, hframe⟩, ⟨hexit.2, hclosed hnonzero⟩, ?_⟩
  rcases hanswer : answer (inv.execute wording)
    { tree := locked, stdout := "earlier" : World } with ⟨e | _, w⟩
  · obtain ⟨said, rfl⟩ := hworld _ _ _ hanswer
    have heq : later = _ := congrArg Prod.snd hanswer
    exact ⟨congrArg World.stdout heq, congrArg World.tree heq⟩
  · rw [hanswer] at hlater
    cases hlater

end Invocation

end Fitout
