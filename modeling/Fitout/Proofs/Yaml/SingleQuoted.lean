import Fitout.Proofs.Yaml.Gap

/-!
# Single-quoted scalars

Between single quotes only the quote itself is escaped, by doubling it. On one line everything else
stands for itself (`SpellsSingle`).

When a text is written, a line separator is written as it is and ends a line, and the next line is
indented by two spaces, which the reader drops again. The reader would also drop a space that
belongs to the text next to a separator, so a text with such a space is not written in this style.

Main statements: `SpellsSingle.singleQuoted`, `singleQuoted_singleBody`.
-/

namespace Fitout.Yaml

/-- A text as it stands between single quotes. -/
def singleBody (cs : List Char) : List Char :=
  cs.foldr
    (fun c r ↦
      if c == '\x27' then ['\x27', '\x27'] ++ r
      else if isAnyBreak c && !r.head?.any isAnyBreak then [c, ' ', ' '] ++ r
      else c :: r) []

theorem singleForm_eq (cs : List Char) : singleForm cs = '\x27' :: (singleBody cs ++ ['\x27']) :=
  rfl

/-- A line goes on with another break where the text does. -/
theorem head?_singleBody (cs : List Char) :
    (singleBody cs).head?.any isAnyBreak = cs.head?.any isAnyBreak := by
  cases cs with
  | nil => rfl
  | cons c cs =>
    rw [singleBody, List.foldr_cons, ← singleBody]
    split
    next h =>
      obtain rfl := eq_of_beq h
      rfl
    split <;> rfl

theorem singleBody_quote (cs : List Char) :
    singleBody ('\x27' :: cs) = '\x27' :: '\x27' :: singleBody cs :=
  rfl

/-- A character that is neither a quote nor a line break is written as it is. -/
theorem singleBody_cons {c : Char} (cs : List Char) (hquote : c ≠ '\x27')
    (hbreak : isAnyBreak c = false) : singleBody (c :: cs) = c :: singleBody cs := by
  rw [singleBody, List.foldr_cons, ← singleBody, beq_false_of_ne hquote, hbreak]
  rfl

/-- The last of some line breaks is followed by two spaces. -/
theorem singleBody_break {c : Char} (cs : List Char) (hbreak : isAnyBreak c = true) :
    singleBody (c :: cs) =
      if cs.head?.any isAnyBreak then c :: singleBody cs else c :: ' ' :: ' ' :: singleBody cs := by
  have hquote : c ≠ '\x27' := by
    rintro rfl
    exact absurd hbreak (by decide)
  rw [singleBody, List.foldr_cons, ← singleBody, beq_false_of_ne hquote, hbreak, head?_singleBody]
  cases cs.head?.any isAnyBreak <;> rfl

/-! ### One character -/

variable {gap : Gap} {m : Mark}

theorem singleQuoted_quote (cs : List Char) :
    singleQuoted false gap m ('\x27' :: '\x27' :: cs) =
      (singleQuoted false .none ((m.step '\x27').step '\x27') cs).map
        (.prepend (gap.fold ++ ['\x27'])) := by
  simp [singleQuoted, inSight]

theorem singleQuoted_end {rest : List Char} (hrest : rest.head? ≠ some '\x27') :
    singleQuoted false gap m ('\x27' :: rest) =
      some { text := gap.fold, cursor := ⟨rest, m.step '\x27', false⟩ } := by
  rw [singleQuoted]
  · simp [inSight]
  · rintro cs rfl
    exact hrest rfl

theorem singleQuoted_blank {c : Char} (cs : List Char) (hblank : isBlank c = true) :
    singleQuoted false gap m (c :: cs) = singleQuoted false (gap.addBlank c) (m.step c) cs := by
  have hquote : c ≠ '\x27' := by
    rintro rfl
    exact absurd hblank (by decide)
  rw [singleQuoted]
  · simp [inSight, hblank]
  · exact hquote

theorem singleQuoted_space (cs : List Char) :
    singleQuoted false gap m (' ' :: cs) =
      singleQuoted false (gap.addBlank ' ') (m.step ' ') cs :=
  singleQuoted_blank cs (by decide)

theorem singleQuoted_break {c : Char} (cs : List Char) (hbreak : isBreak c = true) :
    singleQuoted false gap m (c :: cs) = singleQuoted false (gap.addBreak c) m.newLine cs := by
  have hquote : c ≠ '\x27' := by
    rintro rfl
    exact absurd hbreak (by decide)
  rw [singleQuoted]
  · simp [inSight, isBlank_of_isBreak hbreak, hbreak]
  · exact hquote

theorem singleQuoted_cons {c : Char} (cs : List Char) (hquote : c ≠ '\x27')
    (hblank : isBlank c = false) (hbreak : isBreak c = false) (hcolumn : m.column ≠ 0) :
    singleQuoted false gap m (c :: cs) =
      (singleQuoted false .none (m.step c) cs).map (.prepend (gap.fold ++ [c])) := by
  rw [singleQuoted]
  · simp [inSight, hblank, hbreak, hcolumn]
  · exact hquote

/-! ### Scalars on one line -/

/-- The characters between the quotes of a scalar on one line, with the text that they spell. -/
inductive SpellsSingle : List Char → List Char → Prop
  | nil : SpellsSingle [] []
  /-- A character that stands for itself. -/
  | plain {c : Char} {cs s : List Char} (hquote : c ≠ '\x27') (hallowed : isAllowed c = true)
      (hbreak : isAnyBreak c = false) (hrest : SpellsSingle cs s) : SpellsSingle (c :: cs) (c :: s)
  /-- A quote, which is doubled. -/
  | quote {cs s : List Char} (hrest : SpellsSingle cs s) :
      SpellsSingle ('\x27' :: '\x27' :: cs) ('\x27' :: s)

/-- What spells a text between single quotes is read as the text, from in front of anything that is
no third quote. -/
theorem SpellsSingle.singleQuoted {cs s : List Char} (h : SpellsSingle cs s) {rest : List Char}
    (hrest : rest.head? ≠ some '\x27') (hgap : gap.isBroken = false) (hcolumn : m.column ≠ 0) :
    ∃ m', Yaml.singleQuoted false gap m (cs ++ '\x27' :: rest) =
      some { text := gap.fold ++ s, cursor := ⟨rest, m', false⟩ } := by
  have hnone : Gap.none.isBroken = false := rfl
  induction h generalizing gap m with
  | nil => exact ⟨_, by rw [List.append_nil]; exact singleQuoted_end hrest⟩
  | @plain c cs s hquote hallowed hbreak _ ih =>
    -- A blank is kept back until it is clear that no line break follows; here none does.
    rw [List.cons_append]
    rcases hblank : isBlank c with - | -
    · obtain ⟨m', hread⟩ := ih (m := m.step c) hnone (Nat.succ_ne_zero _)
      rw [singleQuoted_cons _ hquote hblank (isBreak_of_isAnyBreak_eq_false hbreak) hcolumn, hread]
      exact ⟨m', by simp [ScalarEnd.prepend, Gap.fold]⟩
    · obtain ⟨m', hread⟩ := ih (m := m.step c) (Gap.isBroken_addBlank hgap c) (Nat.succ_ne_zero _)
      rw [singleQuoted_blank _ hblank, hread, Gap.fold_addBlank hgap]
      exact ⟨m', by simp⟩
  | quote _ ih =>
    obtain ⟨m', hread⟩ := ih (m := (m.step '\x27').step '\x27') hnone (Nat.succ_ne_zero _)
    rw [List.cons_append, List.cons_append, singleQuoted_quote, hread]
    exact ⟨m', by simp [ScalarEnd.prepend, Gap.fold]⟩

/-! ### A written character -/

/-- A character in front that is in no relation with any other one. -/
theorem anyNeighbours_cons {p : Char → Char → Bool} {a : Char} (ha : ∀ b, p a b = false)
    (cs : List Char) : anyNeighbours p (a :: cs) = anyNeighbours p cs := by
  cases cs with
  | nil => rfl
  | cons c cs => rw [anyNeighbours, ha, Bool.false_or]

theorem hasSpaceBreak_cons_cons {a c : Char} {cs : List Char}
    (h : hasSpaceBreak (a :: c :: cs) = false) :
    (isAnyBreak c = true → a ≠ ' ') ∧ hasSpaceBreak (c :: cs) = false := by
  simp only [hasSpaceBreak, anyNeighbours, Bool.or_eq_false_iff] at h
  refine ⟨?_, h.2⟩
  rintro hc rfl
  simp [hc] at h

theorem hasBreakSpace_cons_cons {a c : Char} {cs : List Char}
    (h : hasBreakSpace (a :: c :: cs) = false) :
    (c = ' ' → isAnyBreak a = false) ∧ hasBreakSpace (c :: cs) = false := by
  simp only [hasBreakSpace, anyNeighbours, Bool.or_eq_false_iff] at h
  refine ⟨?_, h.2⟩
  rintro rfl
  simpa using h.1

/-- What reading over a written character comes to: the character is in the scalar or kept back,
and reading goes on with the text after it. At the start of a line only another line break may come
next. -/
def PassesOver (gap : Gap) (m : Mark) (c : Char) (cs rest : List Char) : Prop :=
  ∃ text gap' m', text ++ gap'.fold = gap.fold ++ [c] ∧ Gap.Follows c gap' ∧
    (m'.column = 0 → cs.head?.any isBreak = true) ∧
    singleQuoted false gap m (singleBody (c :: cs) ++ rest) =
      (singleQuoted false gap' m' (singleBody cs ++ rest)).map (.prepend text)

section

variable {a c : Char} {cs rest : List Char}

/-- A character that is kept back. -/
theorem passesOver_of_kept {gap' : Gap} (m' : Mark) (hfold : gap'.fold = gap.fold ++ [c])
    (hfollows : Gap.Follows c gap') (hcolumn : m'.column = 0 → cs.head?.any isBreak = true)
    (h : singleQuoted false gap m (singleBody (c :: cs) ++ rest) =
      singleQuoted false gap' m' (singleBody cs ++ rest)) : PassesOver gap m c cs rest := by
  refine ⟨[], gap', m', hfold, hfollows, hcolumn, ?_⟩
  rw [h]
  rcases singleQuoted false gap' m' (singleBody cs ++ rest) with - | e <;> rfl

/-- A character that is taken in with everything that was kept back. -/
theorem passesOver_of_taken (m' : Mark) (hspace : isSpace c = false) (hcolumn : m'.column ≠ 0)
    (h : singleQuoted false gap m (singleBody (c :: cs) ++ rest) =
      (singleQuoted false .none m' (singleBody cs ++ rest)).map (.prepend (gap.fold ++ [c]))) :
    PassesOver gap m c cs rest :=
  ⟨gap.fold ++ [c], .none, m', List.append_nil _, .taken hspace, fun h ↦ absurd h hcolumn, h⟩

/-- A line break is kept back with those before it. After the last of them come the two spaces of
the indentation, which leave no trace. -/
theorem passesOver_break (hgap : Gap.Follows a gap) (ha : a ≠ ' ') (hbreak : isBreak c = true)
    (hfeed : c ≠ '\n') (hprint : ∀ d ∈ cs, isPrintable d = true) :
    PassesOver gap m c cs rest := by
  have hanyBreak := isAnyBreak_of_isBreak hbreak
  have hfold := hgap.fold_addBreak ha hfeed
  have hfollows := hgap.addBreak ha hbreak hfeed
  have hbody := singleBody_break cs hanyBreak
  by_cases hnext : cs.head?.any isAnyBreak = true
  · have hcolumn : cs.head?.any isBreak = true := by
      cases cs with
      | nil => exact hnext
      | cons d ds =>
        rwa [List.head?_cons, Option.any_some, ← isAnyBreak_eq_isBreak
          (hprint d List.mem_cons_self)]
    rw [if_pos hnext] at hbody
    refine passesOver_of_kept m.newLine hfold hfollows (fun _ ↦ hcolumn) ?_
    rw [hbody, List.cons_append, singleQuoted_break _ hbreak]
  · rw [if_neg hnext] at hbody
    refine passesOver_of_kept ((m.newLine.step ' ').step ' ') hfold hfollows
      (fun h ↦ absurd h (Nat.succ_ne_zero _)) ?_
    rw [hbody, List.cons_append, singleQuoted_break _ hbreak, List.cons_append, singleQuoted_space,
      List.cons_append, singleQuoted_space, Gap.addBlank_addBreak, Gap.addBlank_addBreak]

/-- A space is kept back, and there are no line breaks before it. -/
theorem passesOver_space (hgap : Gap.Follows a gap) (ha : isBreak a = false) :
    PassesOver gap m ' ' cs rest := by
  have hbroken : gap.isBroken = false := hgap.isBroken_eq.trans ha
  refine passesOver_of_kept (m.step ' ') (Gap.fold_addBlank hbroken ' ') (hgap.addBlank ha)
    (fun h ↦ absurd h (Nat.succ_ne_zero _)) ?_
  rw [singleBody_cons cs (by decide) (by decide), List.cons_append, singleQuoted_space]

/-- Any other character is taken in, and so is a quote, which is written twice. -/
theorem passesOver_cons (hprint : isPrintable c = true) (hspace : c ≠ ' ')
    (hbreak : isBreak c = false) (hcolumn : m.column ≠ 0) : PassesOver gap m c cs rest := by
  have hblank := isBlank_of_isPrintable hprint hspace
  have hnoSpace : isSpace c = false := by rw [isSpace, hblank, hbreak]; rfl
  by_cases hquote : c = '\x27'
  · subst hquote
    refine passesOver_of_taken ((m.step '\x27').step '\x27') hnoSpace (Nat.succ_ne_zero _) ?_
    rw [singleBody_quote, List.cons_append, List.cons_append, singleQuoted_quote]
  · have hanyBreak : isAnyBreak c = false := by rw [isAnyBreak_eq_isBreak hprint, hbreak]
    refine passesOver_of_taken (m.step c) hnoSpace (Nat.succ_ne_zero _) ?_
    rw [singleBody_cons cs hquote hanyBreak, List.cons_append,
      singleQuoted_cons _ hquote hblank hbreak hcolumn]

end

/-! ### The whole scalar -/

/-- A text between single quotes is read as itself. The character before it decides what the gap
holds; at the start of a line only another line break may come next. -/
theorem singleQuoted_singleBody (cs : List Char) {a : Char} {rest : List Char}
    (hgap : Gap.Follows a gap) (hprint : ∀ c ∈ cs, isPrintable c = true ∧ c ≠ '\n')
    (hspaceBreak : hasSpaceBreak (a :: cs) = false) (hbreakSpace : hasBreakSpace (a :: cs) = false)
    (hcolumn : m.column = 0 → cs.head?.any isBreak = true) (hrest : rest.head? ≠ some '\x27') :
    ∃ m', singleQuoted false gap m (singleBody cs ++ '\x27' :: rest) =
      some { text := gap.fold ++ cs, cursor := ⟨rest, m', false⟩ } := by
  induction cs generalizing a gap m with
  | nil => exact ⟨_, by rw [List.append_nil]; exact singleQuoted_end hrest⟩
  | cons c cs ih =>
    obtain ⟨hspace, hspaceBreak⟩ := hasSpaceBreak_cons_cons hspaceBreak
    obtain ⟨hblank, hbreakSpace⟩ := hasBreakSpace_cons_cons hbreakSpace
    have hprints := fun d hd ↦ hprint d (List.mem_cons_of_mem c hd)
    have hpasses : PassesOver gap m c cs ('\x27' :: rest) := by
      obtain ⟨hprint, hfeed⟩ := hprint c List.mem_cons_self
      rcases hbreak : isBreak c with - | -
      · by_cases heq : c = ' '
        · subst heq
          exact passesOver_space hgap (isBreak_of_isAnyBreak_eq_false (hblank rfl))
        · exact passesOver_cons hprint heq hbreak fun h ↦ by simpa [hbreak] using hcolumn h
      · exact passesOver_break hgap (hspace (isAnyBreak_of_isBreak hbreak)) hbreak hfeed
          fun d hd ↦ (hprints d hd).1
    obtain ⟨text, gap', m', htext, hgap', hcolumn', hread⟩ := hpasses
    obtain ⟨m'', hrest⟩ := ih hgap' hprints hspaceBreak hbreakSpace hcolumn'
    refine ⟨m'', ?_⟩
    have hcons : text ++ (gap'.fold ++ cs) = gap.fold ++ c :: cs := by
      rw [← List.append_assoc, htext, List.append_assoc]
      rfl
    rw [hread, hrest]
    simp only [Option.map_some, ScalarEnd.prepend, hcons]

end Fitout.Yaml
