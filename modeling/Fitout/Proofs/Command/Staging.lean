import Fitout.Proofs.Command.Merge
import Fitout.Proofs.Command.Set
import Fitout.Proofs.Document.RoundTrip

/-!
# Staging through files

A configuration that one run leaves in a file is loaded by the next as it was, whatever the format
of the file (`Target.Receives.load`), and all other files read as before. So nothing is lost
between two runs: assignments that are made in place in two runs come to the same as in one, and
so do updates that are merged in two runs by way of an intermediate file (`Invocation.run_staged`).
The intermediate file may be any but one of the later updates; in particular it may be the base,
and the output may be any of the files.
-/

namespace Fitout

/-- A text is decoded from its own bytes. -/
theorem FileError.decode_toUTF8 (s : String) : decode s.toUTF8 = .ok s := by
  have hvalid : s.toUTF8.IsValidUTF8 := s.isValidUTF8
  rw [decode, String.fromUTF8?, dif_pos hvalid]
  rfl

namespace Target.Receives

variable {t t' after : Tree} {car : Car} {path other : Path} {text : String}

/-- What was written into a file is loaded from it, if the file can be read at all. -/
theorem load (h : (Target.file path).Receives t car text after) {old : Car}
    (hold : Command.load t path = .ok old) : Command.load after path = .ok car := by
  obtain ⟨-, format, hformat, hwrite, -⟩ := h
  obtain ⟨-, content, -, -, hread, -⟩ :=
    Car.loaded_eq_ok_iff.1 (Command.load_eq_ok_iff_loaded.1 hold)
  exact Command.load_eq_ok_iff_loaded.2 (Car.loaded_eq_ok_iff.2 ⟨format, _, _, hformat,
    Tree.read_of_write hwrite hread, FileError.decode_toUTF8 _,
    Car.ofDocument_of_shows (Car.outline_render format car)⟩)

/-- Nothing but what was written into a file is loaded from it. -/
theorem eq_of_load (h : (Target.file path).Receives t car text after) {other : Car}
    (hload : Command.load after path = .ok other) : other = car := by
  obtain ⟨-, format, hformat, -, hkeeps⟩ := h
  obtain ⟨format', content, s, hformat', hread, htext, hother⟩ :=
    Car.loaded_eq_ok_iff.1 (Command.load_eq_ok_iff_loaded.1 hload)
  obtain rfl : format' = format := Except.ok.inj (hformat'.symm.trans hformat)
  obtain rfl := (Tree.keeps_of_read hread).unique hkeeps
  obtain rfl : s = car.render format' :=
    Except.ok.inj (htext.symm.trans (FileError.decode_toUTF8 _))
  exact Except.ok.inj
    (hother.symm.trans (Car.ofDocument_of_shows (Car.outline_render format' car)))

/-- A file that was not written is loaded as before. -/
theorem load_of_apart (h : (Target.file path).Receives t car text after)
    (hapart : t.Apart other path) {old : Car} :
    Command.load after other = .ok old ↔ Command.load t other = .ok old := by
  obtain ⟨-, format, -, hwrite, -⟩ := h
  simp only [Command.load_eq_ok_iff_loaded, Car.loaded_eq_ok_iff,
    Tree.read_of_write_of_apart hwrite hapart]

theorem sameWays (h : (Target.file path).Receives t car text after) : t.SameWays after := by
  obtain ⟨-, format, -, hwrite, -⟩ := h
  exact Tree.sameWays_of_write hwrite

/-- Where one configuration can be written, any other can, also in a tree with other files. -/
theorem exists_of_sameWays (h : (Target.file path).Receives t car text after)
    (hsame : t.SameWays t') (car' : Car) :
    ∃ after', (Target.file path).Receives t' car' "" after' := by
  obtain ⟨-, format, hformat, hwrite, -⟩ := h
  obtain ⟨p, hp, -⟩ := Tree.write_eq_ok_iff.1 hwrite
  have hwrite' : t'.write path (car'.render format).toUTF8 = .ok _ :=
    Tree.write_eq_ok_iff.2 ⟨p, hsame.destination_eq_ok_iff.2 hp, rfl⟩
  exact ⟨_, rfl, format, hformat, hwrite', Tree.keeps_of_write hwrite'⟩

/-- The same configuration gives a file the same content, whatever else is in the trees. -/
theorem exists_keeps (h : (Target.file path).Receives t car text after) {text' : String}
    {after' : Tree} (h' : (Target.file path).Receives t' car text' after') :
    ∃ content, after.Keeps path content ∧ after'.Keeps path content := by
  obtain ⟨-, format, hformat, -, hkeeps⟩ := h
  obtain ⟨-, format', hformat', -, hkeeps'⟩ := h'
  obtain rfl : format = format' := Except.ok.inj (hformat.symm.trans hformat')
  exact ⟨_, hkeeps, hkeeps'⟩

end Target.Receives

namespace Command

/-- The configuration that the updates in some files make of the base in a file. -/
def Merges (t : Tree) (base : Path) (updates : List Path) (car : Car) : Prop :=
  ∃ first layers, load t base = .ok first ∧ updates.mapM (load t) = .ok layers ∧
    first.mergeAll layers = car

/-- A merge without overrides writes the configuration that the updates make of the base. -/
theorem effect_merge_eq_ok_iff {wording : Wording} {quiet : Bool} {env : Environment}
    {t after : Tree} {base path : Path} {updates : List Path} {text : String} :
    effect wording quiet t env (.merge base updates false (.file path)) = .ok (text, after) ↔
      ∃ car, Merges t base updates car ∧ (Target.file path).Receives t car text after := by
  show (load t base >>= fun first ↦ updates.mapM (load t) >>= fun layers ↦
    Except.ok (first.mergeAll layers) >>= fun car ↦ emitted t car (.file path)) = _ ↔ _
  simp only [Except.bind_eq_ok_iff, emitted_eq_ok_iff]
  constructor
  · rintro ⟨first, hfirst, layers, hlayers, _, ⟨⟩, hreceives⟩
    exact ⟨_, ⟨first, layers, hfirst, hlayers, rfl⟩, hreceives⟩
  · rintro ⟨_, ⟨first, layers, hfirst, hlayers, rfl⟩, hreceives⟩
    exact ⟨first, hfirst, layers, hlayers, _, rfl, hreceives⟩

/-! ### One stage after the other -/

section Stages

variable {t after : Tree} {mid car : Car} {text : String}

theorem sets_append_iff {file : Path} {texts more : List String} :
    Sets t file (texts ++ more) car ↔ ∃ mid, Sets t file texts mid ∧ mid.Becomes more car := by
  simp only [Sets, Car.becomes_append_iff]
  constructor
  · rintro ⟨current, hload, mid, hmid, hcar⟩
    exact ⟨mid, ⟨current, hload, hmid⟩, hcar⟩
  · rintro ⟨mid, ⟨current, hload, hmid⟩, hcar⟩
    exact ⟨current, hload, mid, hmid, hcar⟩

/-- Assignments to a file that was just written go on from what was written. -/
theorem becomes_of_sets {file : Path} {texts : List String}
    (h : (Target.file file).Receives t mid text after) (hsets : Sets after file texts car) :
    mid.Becomes texts car := by
  obtain ⟨current, hload, hbecomes⟩ := hsets
  rwa [h.eq_of_load hload] at hbecomes

/-- They can do so if the file could be loaded before it was written. -/
theorem sets_of_becomes {file : Path} {texts : List String}
    (h : (Target.file file).Receives t mid text after) {old : Car} (hold : load t file = .ok old)
    (hbecomes : mid.Becomes texts car) : Sets after file texts car :=
  ⟨mid, h.load hold, hbecomes⟩

/-- Updates that are merged onto a file that was just written go on from what was written, if they
are in other files. -/
theorem exists_layers_of_merges {staging : Path} {updates : List Path}
    (h : (Target.file staging).Receives t mid text after)
    (hapart : ∀ p ∈ updates, t.Apart p staging) (hmerges : Merges after staging updates car) :
    ∃ layers, updates.mapM (load t) = .ok layers ∧ mid.mergeAll layers = car := by
  obtain ⟨first, layers, hfirst, hlayers, hcar⟩ := hmerges
  rw [h.eq_of_load hfirst] at hcar
  exact ⟨layers, (Except.mapM_eq_ok_congr (fun p hp _ ↦ h.load_of_apart (hapart p hp)) layers).1
    hlayers, hcar⟩

theorem merges_append {base : Path} {updates more : List Path} {layers : List Car}
    (h : Merges t base updates mid) (hlayers : more.mapM (load t) = .ok layers) :
    Merges t base (updates ++ more) (mid.mergeAll layers) := by
  obtain ⟨first, before, hfirst, hbefore, rfl⟩ := h
  refine ⟨first, before ++ layers, hfirst, ?_, ?_⟩
  · rw [List.mapM_append, hbefore, hlayers]
    rfl
  · exact List.foldl_append

end Stages

end Command

namespace Invocation

variable {inv : Invocation} {wording : Wording} {env : Environment} {t after : Tree} {path : Path}

theorem run_eq_ok_iff_receives {P : Car → Prop}
    (h : ∀ text, inv.effect wording t env = .ok (text, after) ↔
      ∃ car, P car ∧ (Target.file path).Receives t car text after) :
    (inv.run wording env t).exitCode = 0 ∧ (inv.run wording env t).tree = after ↔
      ∃ car, P car ∧ (Target.file path).Receives t car "" after := by
  simp only [run_eq_ok_iff, h]
  constructor
  · rintro ⟨_, car, hcar, rfl, hreceives⟩
    exact ⟨car, hcar, rfl, hreceives⟩
  · exact fun hcar ↦ ⟨"", hcar⟩

/-! ### Assignments in place -/

/-- Assignments to the configuration in a file that are written back to it. -/
def setInPlace (verbose quiet : Bool) (file : Path) (texts : List String) : Invocation :=
  ⟨verbose, quiet, .set file texts (.file file)⟩

section SetInPlace

variable {verbose quiet : Bool} {file : Path} {texts more : List String}

theorem run_setInPlace_iff :
    ((setInPlace verbose quiet file texts).run wording env t).exitCode = 0 ∧
        ((setInPlace verbose quiet file texts).run wording env t).tree = after ↔
      ∃ car, Command.Sets t file texts car ∧ (Target.file file).Receives t car "" after :=
  run_eq_ok_iff_receives fun _ ↦ Command.effect_set_eq_ok_iff

/-- What succeeds in two runs succeeds in one. -/
theorem run_setInPlace_append
    (hfirst : ((setInPlace verbose quiet file texts).run wording env t).exitCode = 0)
    (hsecond : ((setInPlace verbose quiet file more).run wording env
      ((setInPlace verbose quiet file texts).run wording env t).tree).exitCode = 0) :
    ((setInPlace verbose quiet file (texts ++ more)).run wording env t).exitCode = 0 := by
  obtain ⟨mid, hmid, hstage⟩ := run_setInPlace_iff.1 ⟨hfirst, rfl⟩
  obtain ⟨car, hcar, -⟩ := run_setInPlace_iff.1 ⟨hsecond, rfl⟩
  have hmore := Command.becomes_of_sets hstage hcar
  obtain ⟨after, hafter⟩ := hstage.exists_of_sameWays (.refl t) car
  exact (run_setInPlace_iff.2 ⟨car, Command.sets_append_iff.2 ⟨mid, hmid, hmore⟩, hafter⟩).1

/-- What succeeds in one run succeeds in two, and the file has the same content. -/
theorem run_setInPlace_split
    (h : ((setInPlace verbose quiet file (texts ++ more)).run wording env t).exitCode = 0) :
    let first := (setInPlace verbose quiet file texts).run wording env t
    let second := (setInPlace verbose quiet file more).run wording env first.tree
    (first.exitCode = 0 ∧ second.exitCode = 0) ∧
      ∃ content, second.tree.Keeps file content ∧
        ((setInPlace verbose quiet file (texts ++ more)).run wording env t).tree.Keeps file
          content := by
  intro first second
  obtain ⟨car, hcar, hwrite⟩ := run_setInPlace_iff.1 ⟨h, rfl⟩
  obtain ⟨mid, hmid, hmore⟩ := Command.sets_append_iff.1 hcar
  -- The configuration in between can be written where the last one can.
  obtain ⟨staged, hstage⟩ := hwrite.exists_of_sameWays (.refl t) mid
  obtain ⟨hfirst, hstaged⟩ := run_setInPlace_iff.2 ⟨mid, hmid, hstage⟩
  obtain rfl : first.tree = staged := hstaged
  obtain ⟨after, hlast⟩ := hwrite.exists_of_sameWays hstage.sameWays car
  obtain ⟨old, hold, -⟩ := hmid
  obtain ⟨hsecond, hafter⟩ :=
    run_setInPlace_iff.2 ⟨car, Command.sets_of_becomes hstage hold hmore, hlast⟩
  obtain rfl : second.tree = after := hafter
  exact ⟨⟨hfirst, hsecond⟩, hlast.exists_keeps hwrite⟩

end SetInPlace

/-! ### Merges by way of a file -/

/-- Updates that are merged onto a base, without overrides, and written into a file. -/
def mergeInto (verbose quiet : Bool) (base : Path) (updates : List Path) (output : Path) :
    Invocation :=
  ⟨verbose, quiet, .merge base updates false (.file output)⟩

section MergeInto

variable {verbose quiet : Bool} {base staging output : Path} {updates more : List Path}

theorem run_mergeInto_iff :
    ((mergeInto verbose quiet base updates output).run wording env t).exitCode = 0 ∧
        ((mergeInto verbose quiet base updates output).run wording env t).tree = after ↔
      ∃ car, Command.Merges t base updates car ∧
        (Target.file output).Receives t car "" after :=
  run_eq_ok_iff_receives fun _ ↦ Command.effect_merge_eq_ok_iff

/-- What succeeds in two runs succeeds in one, and the output has the same content. -/
theorem run_mergeInto_append (hapart : ∀ p ∈ more, t.Apart p staging)
    (hfirst : ((mergeInto verbose quiet base updates staging).run wording env t).exitCode = 0)
    (hsecond : ((mergeInto verbose quiet staging more output).run wording env
      ((mergeInto verbose quiet base updates staging).run wording env t).tree).exitCode = 0) :
    let second := (mergeInto verbose quiet staging more output).run wording env
      ((mergeInto verbose quiet base updates staging).run wording env t).tree
    let whole := (mergeInto verbose quiet base (updates ++ more) output).run wording env t
    whole.exitCode = 0 ∧
      ∃ content, second.tree.Keeps output content ∧ whole.tree.Keeps output content := by
  intro second whole
  obtain ⟨mid, hmid, hstage⟩ := run_mergeInto_iff.1 ⟨hfirst, rfl⟩
  obtain ⟨car, hcar, hwrite⟩ := run_mergeInto_iff.1 ⟨hsecond, rfl⟩
  obtain ⟨layers, hlayers, rfl⟩ := Command.exists_layers_of_merges hstage hapart hcar
  -- The output can also be written in the tree that has no intermediate file yet.
  obtain ⟨after, hlast⟩ :=
    hwrite.exists_of_sameWays hstage.sameWays.symm (mid.mergeAll layers)
  obtain ⟨hwhole, hafter⟩ :=
    run_mergeInto_iff.2 ⟨_, Command.merges_append hmid hlayers, hlast⟩
  obtain rfl : whole.tree = after := hafter
  exact ⟨hwhole, hwrite.exists_keeps hlast⟩

end MergeInto

/-- **Staging through files is transparent.** Assignments made in place in two runs succeed if they
succeed in one run, and leave the same content in the file. Updates merged in two runs by way of a
file that is none of the later updates leave the same content in the output as in one run. -/
theorem run_staged (verbose quiet : Bool) (wording : Wording) (env : Environment) (t : Tree) :
    (∀ (file : Path) (texts more : List String),
      let first := (setInPlace verbose quiet file texts).run wording env t
      let second := (setInPlace verbose quiet file more).run wording env first.tree
      let whole := (setInPlace verbose quiet file (texts ++ more)).run wording env t
      (first.exitCode = 0 ∧ second.exitCode = 0 ↔ whole.exitCode = 0) ∧
        (whole.exitCode = 0 →
          ∃ content, second.tree.Keeps file content ∧ whole.tree.Keeps file content)) ∧
    ∀ (base staging output : Path) (updates more : List Path),
      (∀ p ∈ more, t.Apart p staging) →
      let first := (mergeInto verbose quiet base updates staging).run wording env t
      let second := (mergeInto verbose quiet staging more output).run wording env first.tree
      let whole := (mergeInto verbose quiet base (updates ++ more) output).run wording env t
      first.exitCode = 0 → second.exitCode = 0 → whole.exitCode = 0 ∧
        ∃ content, second.tree.Keeps output content ∧ whole.tree.Keeps output content := by
  constructor
  · intro file texts more first second whole
    refine ⟨⟨fun ⟨hfirst, hsecond⟩ ↦ ?_, fun h ↦ ?_⟩, fun h ↦ ?_⟩
    · exact run_setInPlace_append hfirst hsecond
    · exact (run_setInPlace_split h).1
    · exact (run_setInPlace_split h).2
  · intro base staging output updates more hapart first second whole hfirst hsecond
    exact run_mergeInto_append hapart hfirst hsecond

/-- Staging where the runs succeed: in place by an absolute path, and through a file of the other
format, with an update that is reached over a link. -/
theorem run_staged_yaml_json :
    let start : Tree :=
      { home := .ofText "srv/work", links := [(.ofText "srv/link.yml", .ofText "/data/b.yml")] }
    let t := ((start.put start.home .directory).put (.ofText "srv/a.yml")
      (.file "id: 7\nbrand: Audi\nengine: diesel\n".toUTF8)).put (.ofText "data/b.yml")
        (.file "id: 8\nbrand: Seat\nengine: lng\ncamera: rear\n".toUTF8)
    let wording : Wording := ⟨"", fun _ ↦ ""⟩
    (let file : Path := .ofText "/srv/a.yml"
      let first := (setInPlace false false file ["camera=rear"]).run wording {} t
      let second := (setInPlace false false file ["camera="]).run wording {} first.tree
      let whole := (setInPlace false false file ["camera=rear", "camera="]).run wording {} t
      (first.exitCode = 0 ∧ second.exitCode = 0) ∧
        ∃ content, second.tree.Keeps file content ∧ whole.tree.Keeps file content) ∧
    (let update : Path := .ofText "../link.yml"
      let output : Path := .ofText "/srv/a.yml"
      let first := (mergeInto false false (.ofText "../a.yml") [update] (.ofText "c.json")).run
        wording {} t
      let second := (mergeInto false false (.ofText "c.json") [update] output).run wording {}
        first.tree
      let whole := (mergeInto false false (.ofText "../a.yml") [update, update] output).run
        wording {} t
      whole.exitCode = 0 ∧
        ∃ content, second.tree.Keeps output content ∧ whole.tree.Keeps output content) := by
  intro start t wording
  obtain ⟨hset, hmerge⟩ := run_staged false false wording {} t
  constructor
  · intro file first second whole
    have hwhole : whole.exitCode = 0 := by decide +kernel
    have hstaged := hset file ["camera=rear"] ["camera="]
    exact ⟨hstaged.1.2 hwhole, hstaged.2 hwhole⟩
  · intro update output first second whole
    have hapart : ∀ p ∈ [update], t.Apart p (.ofText "c.json") := by decide +kernel
    exact hmerge (.ofText "../a.yml") (.ofText "c.json") output [update] [update] hapart
      (by decide +kernel) (by decide +kernel)

end Invocation

end Fitout
