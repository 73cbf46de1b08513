import Fitout.Files.Path
import Fitout.Text.Blank
import Mathlib.Data.List.TakeWhile

/-!
# File names and extensions

The file name of a path is what stands between its last slash and the slashes and dots at its end
that are disregarded (`Path.Names`), and the extension is what follows the last dot of the file name
unless nothing stands before this dot (`Path.HasExtension`). Main statements:
`Path.fileName?_eq_some_iff` and `Path.extensionOf?_eq_some_iff`.
-/

namespace Fitout.Path

variable {cs p name e dir t : List UInt8} {ps before after : List Component}

/-! ### Pieces -/

theorem pieces_ne_nil (cs : List UInt8) : pieces cs ≠ [] := by
  induction cs with
  | nil => exact List.cons_ne_nil _ _
  | cons c cs ih =>
    obtain ⟨p, ps, hps⟩ := List.exists_cons_of_ne_nil ih
    rw [pieces, hps]
    split <;> exact List.cons_ne_nil _ _

/-- A slash ends one piece and starts another. -/
theorem pieces_append_slash (a b : List UInt8) :
    pieces (a ++ slash :: b) = pieces a ++ pieces b := by
  induction a with
  | nil => rfl
  | cons c a ih =>
    obtain ⟨p, ps, hps⟩ := List.exists_cons_of_ne_nil (pieces_ne_nil a)
    rw [List.cons_append, pieces, pieces, ih, hps]
    split <;> rfl

theorem pieces_eq_singleton (h : slash ∉ cs) : pieces cs = [cs] := by
  induction cs with
  | nil => rfl
  | cons c cs ih =>
    have hc : c ≠ slash := fun heq ↦ h (heq ▸ List.mem_cons_self)
    rw [pieces, if_neg hc, ih fun hcs ↦ h (List.mem_cons_of_mem c hcs)]

theorem slash_not_mem_piece (h : p ∈ pieces cs) : slash ∉ p := by
  induction cs generalizing p with
  | nil =>
    rw [List.mem_singleton.1 h]
    exact List.not_mem_nil
  | cons c cs ih =>
    obtain ⟨q, qs, hqs⟩ := List.exists_cons_of_ne_nil (pieces_ne_nil cs)
    rw [hqs] at ih
    rw [pieces, hqs] at h
    split at h
    · rcases List.mem_cons.1 h with rfl | h
      · exact List.not_mem_nil
      · exact ih h
    next hc =>
      rcases List.mem_cons.1 h with rfl | h
      · intro hmem
        rcases List.mem_cons.1 hmem with heq | hmem
        · exact hc heq.symm
        · exact ih List.mem_cons_self hmem
      · exact ih (List.mem_cons_of_mem q h)

/-- A text is its pieces with slashes between them. -/
theorem append_flatMap_of_pieces (h : pieces cs = p :: ps) : p ++ ps.flatMap (slash :: ·) = cs := by
  induction cs generalizing p ps with
  | nil =>
    obtain ⟨rfl, rfl⟩ := List.cons.inj h
    rfl
  | cons c cs ih =>
    obtain ⟨q, qs, hqs⟩ := List.exists_cons_of_ne_nil (pieces_ne_nil cs)
    rw [pieces, hqs] at h
    split at h
    next hc =>
      obtain ⟨rfl, rfl⟩ := List.cons.inj h
      rw [List.nil_append, List.flatMap_cons, List.cons_append, ih hqs, hc]
    next =>
      obtain ⟨rfl, rfl⟩ := List.cons.inj h
      rw [List.cons_append, ih hqs]

/-! ### File names -/

/-- What is disregarded at the end of a path: slashes, each perhaps with a dot behind it. -/
inductive IsTrail : List UInt8 → Prop
  | nil : IsTrail []
  | bare {t : List UInt8} (h : IsTrail t) : IsTrail (slash :: t)
  | dotted {t : List UInt8} (h : IsTrail t) : IsTrail (slash :: dot :: t)

/-- A component that names a file, and not the directory itself or the one above. -/
structure IsFileName (name : List UInt8) : Prop where
  /-- There is a name. -/
  nonempty : name ≠ []
  /-- The name is a single component. -/
  slashless : slash ∉ name
  /-- The name is not that of the directory itself. -/
  ne_dot : name ≠ current
  /-- The name is not that of the directory above. -/
  ne_dots : name ≠ parent

/-- A path with its file name. -/
inductive Names : List UInt8 → List UInt8 → Prop
  /-- A directory, which ends in a slash, may stand before the name; what stands behind the name is
  disregarded. -/
  | mk {dir name trail : List UInt8} (hdir : dir = [] ∨ ∃ d, dir = d ++ [slash])
      (hname : IsFileName name) (htrail : IsTrail trail) : Names (dir ++ (name ++ trail)) name

/-- The pieces behind a file name do not count. -/
theorem IsTrail.exists_pieces (ht : IsTrail t) (hname : slash ∉ name) :
    ∃ ps, pieces (name ++ t) = name :: ps ∧ ∀ p ∈ ps, p = [] ∨ p = current := by
  induction ht generalizing name with
  | nil => exact ⟨[], by rw [List.append_nil, pieces_eq_singleton hname], nofun⟩
  | @bare t _ ih =>
    obtain ⟨ps, hps, htrail⟩ := @ih [] List.not_mem_nil
    refine ⟨[] :: ps, ?_, List.forall_mem_cons.2 ⟨.inl rfl, htrail⟩⟩
    rw [pieces_append_slash, pieces_eq_singleton hname, ← hps]
    rfl
  | @dotted t _ ih =>
    obtain ⟨ps, hps, htrail⟩ := @ih current (by decide)
    refine ⟨current :: ps, ?_, List.forall_mem_cons.2 ⟨.inr rfl, htrail⟩⟩
    rw [pieces_append_slash, pieces_eq_singleton hname, ← hps]
    rfl

theorem isTrail_flatMap (h : ∀ p ∈ ps, p = [] ∨ p = current) :
    IsTrail (ps.flatMap (slash :: ·)) := by
  induction ps with
  | nil => exact .nil
  | cons p ps ih =>
    obtain ⟨hp, hps⟩ := List.forall_mem_cons.1 h
    rw [List.flatMap_cons]
    rcases hp with rfl | rfl
    · exact .bare (ih hps)
    · exact .dotted (ih hps)

theorem exists_pieces_dir (hdir : dir = [] ∨ ∃ d, dir = d ++ [slash]) :
    ∃ ps, ∀ cs, pieces (dir ++ cs) = ps ++ pieces cs := by
  rcases hdir with rfl | ⟨d, rfl⟩
  · exact ⟨[], fun _ ↦ rfl⟩
  · refine ⟨pieces d, fun cs ↦ ?_⟩
    rw [List.append_assoc, List.singleton_append, pieces_append_slash]

/-- Before a piece stands a directory. -/
theorem exists_dir_of_pieces (h : pieces cs = before ++ p :: after) :
    ∃ dir, (dir = [] ∨ ∃ d, dir = d ++ [slash]) ∧
      cs = dir ++ (p ++ after.flatMap (slash :: ·)) := by
  cases before with
  | nil => exact ⟨[], .inl rfl, (append_flatMap_of_pieces h).symm⟩
  | cons q before =>
    refine ⟨(q ++ before.flatMap (slash :: ·)) ++ [slash], .inr ⟨_, rfl⟩, ?_⟩
    rw [← append_flatMap_of_pieces h]
    simp

/-- The last component is the last piece that counts. -/
theorem getLast?_components_eq_some_iff {path : Path} :
    path.components.getLast? = some name ↔
      ∃ before after, pieces path.bytes = before ++ name :: after ∧
        (name ≠ [] ∧ name ≠ current) ∧ ∀ p ∈ after, p = [] ∨ p = current := by
  rw [components, List.getLast?_filter, List.find?_eq_some_iff_append]
  simp only [Bool.not_eq_true', Bool.or_eq_false_iff, beq_eq_false_iff_ne, Bool.not_not,
    Bool.or_eq_true, beq_iff_eq]
  constructor
  · rintro ⟨hname, after, before, hpieces, hafter⟩
    refine ⟨before.reverse, after.reverse, ?_, hname, fun p hp ↦ hafter p (List.mem_reverse.1 hp)⟩
    simpa using congrArg List.reverse hpieces
  · rintro ⟨before, after, hpieces, hname, hafter⟩
    refine ⟨hname, after.reverse, before.reverse, ?_, fun p hp ↦ hafter p (List.mem_reverse.1 hp)⟩
    simp [hpieces]

/-- The file name is the one that the way the path is written gives it. -/
theorem fileName?_eq_some_iff {path : Path} :
    path.fileName? = some name ↔ Names path.bytes name := by
  have hlast : path.fileName? = some name ↔
      path.components.getLast? = some name ∧ name ≠ parent := by
    rw [fileName?]
    split
    next last hlast =>
      rw [hlast, Option.some.injEq, Option.ite_none_left_eq_some, Option.some.injEq]
      exact ⟨fun ⟨hne, heq⟩ ↦ ⟨heq, heq ▸ hne⟩, fun ⟨heq, hne⟩ ↦ ⟨heq ▸ hne, heq⟩⟩
    next hnone => simp [hnone]
  rw [hlast, getLast?_components_eq_some_iff]
  constructor
  · rintro ⟨⟨before, after, hpieces, ⟨hnonempty, hdot⟩, hafter⟩, hdots⟩
    have hmem : name ∈ pieces path.bytes := hpieces ▸ by simp
    obtain ⟨dir, hdir, htext⟩ := exists_dir_of_pieces hpieces
    rw [htext]
    exact .mk hdir ⟨hnonempty, slash_not_mem_piece hmem, hdot, hdots⟩ (isTrail_flatMap hafter)
  · intro h
    generalize path.bytes = text at h ⊢
    obtain ⟨hdir, hname, htrail⟩ := h
    obtain ⟨before, hbefore⟩ := exists_pieces_dir hdir
    obtain ⟨after, hpieces, hafter⟩ := htrail.exists_pieces hname.slashless
    exact ⟨⟨before, after, by rw [hbefore, hpieces], ⟨hname.nonempty, hname.ne_dot⟩, hafter⟩,
      hname.ne_dots⟩

/-- A directory in front of a path does not change the file name. -/
theorem Names.prepend (h : Names cs name) (dir : List UInt8) : Names (dir ++ slash :: cs) name := by
  obtain @⟨inner, name, trail, hdir, hname, htrail⟩ := h
  have hassoc : dir ++ slash :: (inner ++ (name ++ trail)) =
      (dir ++ slash :: inner) ++ (name ++ trail) := by simp
  rw [hassoc]
  refine .mk (.inr ?_) hname htrail
  rcases hdir with rfl | ⟨d, rfl⟩
  · exact ⟨dir, rfl⟩
  · exact ⟨dir ++ slash :: d, by simp⟩

theorem Names.unique {other : List UInt8} (h : Names cs name) (h' : Names cs other) :
    name = other := by
  have hread {n : List UInt8} (hn : Names cs n) : fileName? ⟨cs⟩ = some n :=
    fileName?_eq_some_iff.2 hn
  exact Option.some.inj ((hread h).symm.trans (hread h'))

/-! ### Extensions -/

/-- A file name with its extension: what follows the last dot, if something stands before it. -/
inductive HasExtension : List UInt8 → List UInt8 → Prop
  | mk {stem e : List UInt8} (hstem : stem ≠ []) (he : dot ∉ e) : HasExtension (stem ++ dot :: e) e

theorem extensionOf?_eq_some_iff : extensionOf? name = some e ↔ HasExtension name e := by
  constructor
  · intro h
    rw [extensionOf?] at h
    split at h
    next => cases h
    next d before hdrop =>
      obtain ⟨hstem, he⟩ := Option.ite_none_left_eq_some.1 h
      obtain rfl : d = dot := by simpa using Text.head_dropWhile hdrop
      have hname : name = before.reverse ++ dot :: e := by
        have hreverse : name.reverse = e.reverse ++ dot :: before := by
          rw [← Option.some.inj he, List.reverse_reverse, ← hdrop, List.takeWhile_append_dropWhile]
        simpa using congrArg List.reverse hreverse
      rw [hname]
      refine .mk (by simpa using hstem) fun hdot ↦ ?_
      rw [← Option.some.inj he, List.mem_reverse] at hdot
      exact absurd (List.mem_takeWhile_imp hdot) (by decide)
  · rintro @⟨stem, e, hstem, he⟩
    have hdotless : ∀ c ∈ e.reverse, (c != dot) = true := by
      intro c hc
      exact bne_iff_ne.2 fun heq ↦ he (heq ▸ List.mem_reverse.1 hc)
    have hreverse : (stem ++ dot :: e).reverse = e.reverse ++ dot :: stem.reverse := by simp
    rw [extensionOf?, hreverse, List.dropWhile_append_of_pos hdotless,
      List.takeWhile_append_of_pos hdotless]
    simp [hstem]

end Fitout.Path
