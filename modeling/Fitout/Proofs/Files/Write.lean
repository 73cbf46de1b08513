import Fitout.Files.Tree
import Fitout.Proofs.Ends
import Fitout.Proofs.Files.Path

/-!
# Writes

What a write does to a tree. Where a write goes (`Tree.destination`) is settled by the path and the
tree alone, not by what is to be written; and it changes nothing but the file at that place
(`Tree.entry_of_write`).

No write makes or removes a directory, and where a path leads depends on the directories, the links
and the refusals only (`Tree.SameWays.locate_eq_ok_iff`). So after a write every path leads where it
led before: the path of the write leads to what was written (`Tree.keeps_of_write`), a path to
another place reads as before (`Tree.read_of_write_of_apart`), and what could be written can still
be written (`Tree.SameWays.destination_eq_ok_iff`).
-/

namespace Fitout

/-! ### Paths that end in a slash -/

namespace Path

/-- A path that ends in a slash asks for a directory. -/
theorem asksDirectory_of_endsInSlash {p : Path} (h : p.endsInSlash = true) :
    p.asksDirectory = true := by
  have hlast : p.bytes.getLast? = some slash := by simpa [endsInSlash] using h
  obtain ⟨bs, hbs⟩ := List.getLast?_eq_some_iff.1 hlast
  have hpieces : pieces (bs ++ [slash]) = pieces bs ++ [[]] := pieces_append_slash bs []
  simp [asksDirectory, hbs, hpieces]

end Path

namespace Tree

variable {t t' : Tree} {path other : Path} {p q : Place} {content : ByteArray}

/-! ### Refusals -/

theorem permit_eq_ok_iff {α : Type} {a : Access} {gain x : α} :
    t.permit a p gain = .ok x ↔ t.refusal a p = none ∧ gain = x := by
  rw [permit]
  rcases t.refusal a p with - | e <;> simp

/-! ### Where a write goes -/

/-- What can be written is a place that is no directory, by a path that asks for none, if the place
does not refuse it. -/
theorem destination_eq_ok_iff :
    t.destination path = .ok p ↔ t.locate path = .ok p ∧ path.asksDirectory = false ∧
      t.entry? p ≠ some .directory ∧ t.refusal .write p = none := by
  unfold destination
  rw [Except.bind_eq_ok_iff]
  constructor
  · rintro ⟨q, hq, h⟩
    split at h
    · cases h
    · split at h
      case h_2 => cases h
      all_goals
        rename_i he
        split at h
        · cases h
        · next hasks =>
          obtain ⟨hrefusal, rfl⟩ := permit_eq_ok_iff.1 h
          exact ⟨hq, Bool.eq_false_iff.2 hasks, by simp [he], hrefusal⟩
  · rintro ⟨hp, hasks, hentry, hrefusal⟩
    have hslash : ¬ path.endsInSlash = true := fun h ↦ by
      simp [Path.asksDirectory_of_endsInSlash h] at hasks
    refine ⟨p, hp, ?_⟩
    rw [if_neg hslash]
    split
    case h_2 he => exact absurd he hentry
    all_goals
      rw [hasks]
      exact permit_eq_ok_iff.2 ⟨hrefusal, rfl⟩

/-- A write succeeds if it has a place to go to. -/
theorem write_eq_ok_iff :
    t.write path content = .ok t' ↔
      ∃ p, t.destination path = .ok p ∧ t.place p (.file content) = t' := by
  rw [write, Except.bind_eq_ok_iff]
  simp [pure, Except.pure]

/-- A write fails for its path, not for what is to be written. -/
theorem failures_write (t : Tree) (path : Path) (content content' : ByteArray) :
    failures (t.write path content) = failures (t.write path content') := by
  rw [write, write]
  rcases t.destination path with e | p <;> rfl

/-! ### What a write changes -/

/-- Leaving out one place does not matter for the others. -/
theorem lookup_filter_ne {p q : Place} (hne : q ≠ p) (entries : List (Place × FileEntry)) :
    (entries.filter (·.1 != p)).lookup q = entries.lookup q := by
  induction entries with
  | nil => rfl
  | cons e entries ih =>
    obtain ⟨r, entry⟩ := e
    by_cases hr : r = p
    · have hq : (q == p) = false := by simpa using hne
      simp [hr, List.lookup_cons, hq, ih]
    · rcases hq : q == r with _ | _ <;> simp [hr, List.lookup_cons, hq, ih]

/-- What is put at a place stands there, and the other places are as before. -/
theorem entry_place (t : Tree) (hp : p.names ≠ []) (e : FileEntry) (q : Place) :
    Tree.entry? (t.place p e) q = if q = p then some e else t.entry? q := by
  unfold entry? place
  by_cases hq : q = p
  · subst hq
    simp [hp]
  · have hbeq : (q == p) = false := by simpa using hq
    simp [List.lookup_cons, hbeq, lookup_filter_ne hq, hq]

/-- A write changes the file that its path leads to, and nothing else. -/
theorem entry_of_write (h : t.write path content = .ok t') (hp : t.locate path = .ok p)
    (q : Place) : t'.entry? q = if q = p then some (.file content) else t.entry? q := by
  obtain ⟨r, hr, rfl⟩ := write_eq_ok_iff.1 h
  obtain ⟨hlocate, -, hentry, -⟩ := destination_eq_ok_iff.1 hr
  obtain rfl : r = p := Except.ok.inj (hlocate.symm.trans hp)
  have hnames : r.names ≠ [] := fun hnil ↦ hentry (by simp [ entry?, hnil])
  exact entry_place t hnames _ q

/-! ### Trees with the same ways -/

/-- Every path leads to the same place in two trees. -/
structure SameWays (t t' : Tree) : Prop where
  /-- Relative paths start in the same directory. -/
  home : t.home = t'.home
  /-- The directories are the same. -/
  directories : ∀ p, t.entry? p = some .directory ↔ t'.entry? p = some .directory
  /-- The links are the same. -/
  links : t.links = t'.links
  /-- The same is refused. -/
  refusal : t.refusal = t'.refusal

/-- A component leads on from a place only if it is a directory that lets pass. -/
theorem next_eq_ok_iff {c : Path.Component} :
    t.next p c = .ok q ↔ t.entry? p = some .directory ∧ t.refusal .pass p = none ∧
      Path.isOverlong c = false ∧ p.enter c = q := by
  rw [next]
  rcases t.entry? p with - | - | old
  · simp
  · simp only [Except.bind_eq_ok_iff, permit_eq_ok_iff, true_and]
    rcases hlong : Path.isOverlong c with - | - <;> simp
  · simp

namespace SameWays

theorem refl (t : Tree) : SameWays t t :=
  ⟨rfl, fun _ ↦ Iff.rfl, rfl, rfl⟩

theorem symm (h : SameWays t t') : SameWays t' t :=
  ⟨h.home.symm, fun p ↦ (h.directories p).symm, h.links.symm, h.refusal.symm⟩

theorem next_eq_ok_iff (h : SameWays t t') {c : Path.Component} :
    t'.next p c = .ok q ↔ t.next p c = .ok q := by
  rw [Tree.next_eq_ok_iff, Tree.next_eq_ok_iff, h.directories p, h.refusal]

/-- Up to the first link the ways are the same, and behind it if the jumps are. -/
theorem walk_eq_ok_iff (h : SameWays t t')
    {jump jump' : Place → List Path.Component → Except FileError Place}
    (hjump : ∀ p cs q, jump' p cs = .ok q ↔ jump p cs = .ok q) (cs : List Path.Component)
    (p : Place) : t'.walk jump' p cs = .ok q ↔ t.walk jump p cs = .ok q := by
  induction cs generalizing p with
  | nil => rfl
  | cons c cs ih =>
    rw [walk, walk, Except.bind_eq_ok_iff, Except.bind_eq_ok_iff]
    refine exists_congr fun r ↦ and_congr h.next_eq_ok_iff ?_
    rw [h.links]
    split
    · exact hjump _ _ _
    · exact ih _

/-- The induction is on the number of links that are still allowed. -/
theorem follow_eq_ok_iff (h : SameWays t t') (links : Nat) (p : Place)
    (cs : List Path.Component) : t'.follow links p cs = .ok q ↔ t.follow links p cs = .ok q := by
  induction links generalizing p cs q with
  | zero => exact h.walk_eq_ok_iff (fun _ _ _ ↦ Iff.rfl) cs p
  | succ links ih => exact h.walk_eq_ok_iff (fun p cs _ ↦ ih p cs) cs p

/-- A path leads to the same place. -/
theorem locate_eq_ok_iff (h : SameWays t t') :
    t'.locate path = .ok p ↔ t.locate path = .ok p := by
  unfold locate
  rw [h.home]
  split_ifs
  · rfl
  · rfl
  · rfl
  · exact h.follow_eq_ok_iff _ _ _

/-- A path can be written in one tree if it can be written in the other. -/
theorem destination_eq_ok_iff (h : SameWays t t') :
    t'.destination path = .ok p ↔ t.destination path = .ok p := by
  rw [Tree.destination_eq_ok_iff, Tree.destination_eq_ok_iff, h.locate_eq_ok_iff, Ne, Ne,
    h.directories p, h.refusal]

end SameWays

/-- No write makes or removes a directory. -/
theorem sameWays_of_write (h : t.write path content = .ok t') : SameWays t t' := by
  obtain ⟨p, hp, rfl⟩ := write_eq_ok_iff.1 h
  obtain ⟨hlocate, -, hentry, -⟩ := destination_eq_ok_iff.1 hp
  refine ⟨rfl, fun q ↦ ?_, rfl, rfl⟩
  rw [entry_of_write h hlocate]
  by_cases hq : q = p
  · subst hq
    simp [hentry]
  · rw [if_neg hq]

/-! ### Files -/

/-- A path leads to a file with some content, whether or not the file may be read. -/
def Keeps (t : Tree) (path : Path) (content : ByteArray) : Prop :=
  ∃ p, t.locate path = .ok p ∧ t.entry? p = some (.file content)

theorem Keeps.unique {content' : ByteArray} (h : t.Keeps path content)
    (h' : t.Keeps path content') : content = content' := by
  obtain ⟨p, hp, hfile⟩ := h
  obtain ⟨q, hq, hfile'⟩ := h'
  obtain rfl : p = q := Except.ok.inj (hp.symm.trans hq)
  exact FileEntry.file.inj (Option.some.inj (hfile.symm.trans hfile'))

/-- What was written is in the file. -/
theorem keeps_of_write (h : t.write path content = .ok t') : t'.Keeps path content := by
  obtain ⟨p, hp, -⟩ := write_eq_ok_iff.1 h
  obtain ⟨hlocate, -, -, -⟩ := destination_eq_ok_iff.1 hp
  refine ⟨p, (sameWays_of_write h).locate_eq_ok_iff.2 hlocate, ?_⟩
  rw [entry_of_write h hlocate, if_pos rfl]

/-! ### Reading after a write -/

/-- What can be read is a file that does not refuse it, by a path that asks for no directory. -/
theorem read_eq_ok_iff :
    t.read path = .ok content ↔
      ∃ p, t.locate path = .ok p ∧ t.entry? p = some (.file content) ∧
        path.asksDirectory = false ∧ t.refusal .read p = none := by
  unfold read find
  simp only [Except.bind_eq_ok_iff]
  constructor
  · rintro ⟨found, ⟨p, hp, he⟩, h⟩
    rcases hentry : t.entry? p with - | - | old
    all_goals rw [hentry] at he
    · cases he
    · cases he
      cases h
    · rcases hasks : path.asksDirectory with - | -
      all_goals rw [hasks] at he
      · cases he
        obtain ⟨hrefusal, rfl⟩ := permit_eq_ok_iff.1 h
        exact ⟨p, hp, hentry, rfl, hrefusal⟩
      · cases he
  · rintro ⟨p, hp, hfile, hasks, hrefusal⟩
    refine ⟨(p, .file content), ⟨p, hp, ?_⟩, permit_eq_ok_iff.2 ⟨hrefusal, rfl⟩⟩
    rw [hfile, hasks]
    rfl

theorem keeps_of_read (h : t.read path = .ok content) : t.Keeps path content := by
  obtain ⟨p, hp, hfile, -, -⟩ := read_eq_ok_iff.1 h
  exact ⟨p, hp, hfile⟩

/-- A path that can be read denotes something. -/
theorem holds_of_read (h : t.read path = .ok content) : t.holds path = true := by
  unfold read at h
  obtain ⟨e, he, -⟩ := Except.bind_eq_ok_iff.1 h
  rw [holds, he]
  rfl

/-- Where something could be read, what was written is read back. -/
theorem read_of_write (h : t.write path content = .ok t') {old : ByteArray}
    (hold : t.read path = .ok old) : t'.read path = .ok content := by
  obtain ⟨p, hp, -, hasks, hrefusal⟩ := read_eq_ok_iff.1 hold
  have hways := sameWays_of_write h
  refine read_eq_ok_iff.2 ⟨p, hways.locate_eq_ok_iff.2 hp, ?_, hasks, hways.refusal ▸ hrefusal⟩
  rw [entry_of_write h hp, if_pos rfl]

/-- Two paths that do not lead to one place. -/
def Apart (t : Tree) (path other : Path) : Prop :=
  ∀ p, t.locate path = .ok p → t.locate other ≠ .ok p

instance : Decidable (t.Apart path other) :=
  match h : t.locate path with
  | .ok p => decidable_of_iff (t.locate other ≠ .ok p) (by simp [Apart, h])
  | .error _ => isTrue (by simp [Apart, h])

/-- A file that was not written reads as before. -/
theorem read_of_write_of_apart (h : t.write path content = .ok t') (hapart : t.Apart other path)
    {old : ByteArray} : t'.read other = .ok old ↔ t.read other = .ok old := by
  obtain ⟨p, hp, -⟩ := write_eq_ok_iff.1 h
  obtain ⟨hlocate, -, -, -⟩ := destination_eq_ok_iff.1 hp
  have hways := sameWays_of_write h
  have hentry {q : Place} (hq : t.locate other = .ok q) : t'.entry? q = t.entry? q := by
    have hne : q ≠ p := fun heq ↦ hapart q hq (heq ▸ hlocate)
    rw [entry_of_write h hlocate, if_neg hne]
  simp only [read_eq_ok_iff, hways.locate_eq_ok_iff, ← hways.refusal]
  constructor
  · rintro ⟨q, hq, hfile, hrest⟩
    exact ⟨q, hq, hentry hq ▸ hfile, hrest⟩
  · rintro ⟨q, hq, hfile, hrest⟩
    exact ⟨q, hq, (hentry hq).trans hfile, hrest⟩

end Tree

end Fitout
