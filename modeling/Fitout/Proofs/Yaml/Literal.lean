import Fitout.Proofs.Yaml.Gap
import Fitout.Yaml.BlockScalar
import Mathlib.Data.List.TakeWhile

/-!
# Written literal scalars

A text with line feeds is written line by line: a line with content stands behind two spaces, and
every line break as it is. The reader finds the indentation in the header or in the first line, and
goes from line to line too. So the text is taken apart into lines, each with the breaks after it
(`HasLines`), and the breaks at its end are what the header says of them: dropped where the text
does not end with one, kept otherwise.

Main statement: `blockScalar_literalForm`.
-/

namespace Fitout.Yaml

/-! ### The lines of a text -/

/-- What becomes of the breaks at the end of a text that is written as a literal scalar. -/
def chompingOf (cs : List Char) : Chomping :=
  match cs.reverse with
  | [] => .strip
  | [c] => if isAnyBreak c then .keep else .strip
  | c :: d :: _ => if !isAnyBreak c then .strip else if isAnyBreak d then .keep else .clip

/-- The content of a line: at least one character, and no line break. -/
structure IsContent (cs : List Char) : Prop where
  /-- There is something on the line. -/
  nonempty : cs ≠ []
  /-- It stays on the line. -/
  unbroken : ∀ c ∈ cs, isAnyBreak c = false

/-- A text that starts with the content of a line, taken apart into lines. -/
inductive HasLines (chomping : Chomping) : List Char → Prop
  /-- The last line is not ended. In the document it is, and this break is dropped. -/
  | unended {content : List Char} (h : IsContent content) (hdropped : chomping = .strip) :
    HasLines chomping content
  /-- The last line is ended, and all breaks after it are kept. -/
  | ended {content bs : List Char} {b : Char} (h : IsContent content)
    (hbreaks : ∀ c ∈ b :: bs, isBreak c = true)
    (hkept : (BlockState.mk (some b) bs false).finish chomping = b :: bs) :
    HasLines chomping (content ++ b :: bs)
  /-- A line with the breaks after it, and more lines. -/
  | cons {content bs cs : List Char} {b : Char} (h : IsContent content)
    (hbreaks : ∀ c ∈ b :: bs, isBreak c = true) (hcs : HasLines chomping cs) :
    HasLines chomping (content ++ b :: (bs ++ cs))

theorem IsContent.exists_concat {content : List Char} (h : IsContent content) :
    ∃ before last, content = before ++ [last] ∧ isAnyBreak last = false := by
  obtain hnil | ⟨before, last, rfl⟩ := List.eq_nil_or_concat content
  · exact absurd hnil h.nonempty
  · exact ⟨before, last, by simp, h.unbroken last (by simp)⟩

/-- Where the last line is not ended, the break that ends it in the document is dropped. -/
theorem IsContent.chompingOf_eq {content : List Char} (h : IsContent content) :
    chompingOf content = .strip := by
  obtain ⟨before, last, rfl, hlast⟩ := h.exists_concat
  rcases hrev : before.reverse with - | ⟨c, cs⟩ <;> simp [chompingOf, hrev, hlast]

/-- Where the last line is ended, the breaks after it are kept. -/
theorem IsContent.finish_chompingOf {content bs : List Char} {b : Char} (h : IsContent content)
    (hbreaks : ∀ c ∈ b :: bs, isBreak c = true) :
    (BlockState.mk (some b) bs false).finish (chompingOf (content ++ b :: bs)) = b :: bs := by
  have hany : ∀ c ∈ b :: bs, isAnyBreak c = true := fun c hc ↦ isAnyBreak_of_isBreak (hbreaks c hc)
  obtain rfl | ⟨before, last, rfl⟩ := List.eq_nil_or_concat bs
  · obtain ⟨lead, d, rfl, hd⟩ := h.exists_concat
    simp [chompingOf, hd, hany b, BlockState.finish]
  · have hlast : isAnyBreak last = true := hany last (by simp)
    have hkeep : chompingOf (content ++ b :: before.concat last) = .keep := by
      rcases hrev : before.reverse with - | ⟨d, ds⟩
      · simp [chompingOf, hrev, hlast, hany b]
      · have hd : d ∈ before := List.mem_reverse.1 (hrev ▸ List.mem_cons_self)
        simp [chompingOf, hrev, hlast, hany d (by simp [hd])]
    rw [hkeep]
    rfl

/-- All breaks of a text without content are kept. -/
theorem chompingOf_breaks {bs : List Char} (hne : bs ≠ []) (hbreaks : ∀ c ∈ bs, isBreak c = true) :
    chompingOf bs = .keep := by
  have hany : ∀ c ∈ bs.reverse, isAnyBreak c = true := fun c hc ↦
    isAnyBreak_of_isBreak (hbreaks c (List.mem_reverse.1 hc))
  rw [chompingOf]
  rcases hrev : bs.reverse with - | ⟨c, - | ⟨d, ds⟩⟩
  · exact absurd (List.reverse_eq_nil_iff.1 hrev) hne
  · simp [hany c (by simp [hrev])]
  · simp [hany c (by simp [hrev]), hany d (by simp [hrev])]

/-- What comes before the last line does not matter. -/
theorem chompingOf_append {cs : List Char} (hne : cs ≠ [])
    (hhead : ∀ c ∈ cs.head?, isAnyBreak c = false) (before : List Char) :
    chompingOf (before ++ cs) = chompingOf cs := by
  obtain hnil | ⟨init, last, rfl⟩ := List.eq_nil_or_concat cs
  · exact absurd hnil hne
  rcases hrev : init.reverse with - | ⟨d, ds⟩
  · obtain rfl : init = [] := by simpa using hrev
    have hlast : isAnyBreak last = false := hhead last rfl
    rcases hbefore : before.reverse with - | ⟨e, es⟩ <;> simp [chompingOf, hbefore, hlast]
  · simp [chompingOf, hrev]

/-- A text starts with a run of characters of a class, which may be empty. -/
theorem exists_run (p : Char → Bool) (cs : List Char) :
    ∃ run rest, cs = run ++ rest ∧ (∀ c ∈ run, p c = true) ∧ ∀ c ∈ rest.head?, p c = false := by
  refine ⟨cs.takeWhile p, cs.dropWhile p, List.takeWhile_append_dropWhile.symm,
    fun c ↦ List.mem_takeWhile_imp, fun c hc ↦ ?_⟩
  obtain ⟨rest, hrest⟩ := List.head?_eq_some_iff.1 hc
  exact Text.head_dropWhile hrest

/-- A text of printable characters that starts with content can be taken apart into lines. -/
theorem hasLines_of_isPrintable {cs : List Char} (hne : cs ≠ [])
    (hhead : ∀ c ∈ cs.head?, isAnyBreak c = false) (hprint : ∀ c ∈ cs, isPrintable c = true) :
    HasLines (chompingOf cs) cs := by
  induction hlength : cs.length using Nat.strongRecOn generalizing cs with
  | ind n ih =>
    obtain ⟨content, rest, rfl, hrun, hrest⟩ := exists_run (!isAnyBreak ·) cs
    have hcontent : IsContent content := by
      refine ⟨?_, fun c hc ↦ by simpa using hrun c hc⟩
      rintro rfl
      obtain ⟨c, cs, rfl⟩ := List.exists_cons_of_ne_nil hne
      exact absurd (hrest c rfl) (by simpa using hhead c rfl)
    rcases rest with - | ⟨b, rest⟩
    · rw [List.append_nil] at *
      exact .unended hcontent hcontent.chompingOf_eq
    · obtain ⟨bs, cs, rfl, hbs, hcs⟩ := exists_run isAnyBreak rest
      have hbreaks : ∀ c ∈ b :: bs, isBreak c = true := by
        intro c hc
        have hmem : c ∈ content ++ b :: (bs ++ cs) := by
          rw [← List.cons_append]
          exact List.mem_append_right _ (List.mem_append_left _ hc)
        rw [← isAnyBreak_eq_isBreak (hprint c hmem)]
        rcases List.mem_cons.1 hc with rfl | hc
        · simpa using hrest c rfl
        · exact hbs c hc
      by_cases hnil : cs = []
      · subst hnil
        rw [List.append_nil] at *
        exact .ended hcontent hbreaks (hcontent.finish_chompingOf hbreaks)
      · have hlines : HasLines (chompingOf cs) cs :=
          ih cs.length (by simp [← hlength]; omega) hnil hcs (fun c hc ↦ hprint c (by simp [hc])) rfl
        have hsame : chompingOf (content ++ b :: (bs ++ cs)) = chompingOf cs := by
          have happend := chompingOf_append hnil hcs (content ++ b :: bs)
          rwa [List.append_assoc] at happend
        rw [hsame]
        exact .cons hcontent hbreaks hlines

/-! ### Written lines -/

theorem literalLines_content {content : List Char} (h : ∀ c ∈ content, isAnyBreak c = false)
    (cs : List Char) : literalLines false (content ++ cs) = content ++ literalLines false cs := by
  induction content with
  | nil => rfl
  | cons c content ih =>
    have hc := h c List.mem_cons_self
    simp [literalLines, hc, ih fun d hd ↦ h d (List.mem_cons_of_mem c hd)]

theorem literalLines_breaks {bs : List Char} (h : ∀ c ∈ bs, isBreak c = true) (cs : List Char) :
    literalLines true (bs ++ cs) = bs ++ literalLines true cs := by
  induction bs with
  | nil => rfl
  | cons b bs ih =>
    have hb := isAnyBreak_of_isBreak (h b List.mem_cons_self)
    simp [literalLines, hb, ih fun d hd ↦ h d (List.mem_cons_of_mem b hd)]

/-- After the first break the lines start anew. -/
theorem literalLines_cons_break {b : Char} (h : isBreak b = true) (fresh : Bool) (cs : List Char) :
    literalLines fresh (b :: cs) = b :: literalLines true cs := by
  simp [literalLines, isAnyBreak_of_isBreak h]

/-- Content at the start of a line stands behind two spaces. -/
theorem literalLines_true {cs : List Char} (hne : cs ≠ [])
    (hhead : ∀ c ∈ cs.head?, isAnyBreak c = false) :
    literalLines true cs = ' ' :: ' ' :: literalLines false cs := by
  obtain ⟨c, cs, rfl⟩ := List.exists_cons_of_ne_nil hne
  simp [literalLines, hhead c rfl]

theorem HasLines.ne_nil {chomping : Chomping} {cs : List Char} (h : HasLines chomping cs) :
    cs ≠ [] := by
  cases h with
  | unended h => exact h.nonempty
  | ended | cons => simp

theorem IsContent.head_eq {content : List Char} (h : IsContent content) (rest : List Char) :
    ∀ c ∈ (content ++ rest).head?, isAnyBreak c = false := by
  obtain ⟨c, cs, rfl⟩ := List.exists_cons_of_ne_nil h.nonempty
  rintro d ⟨⟩
  exact h.unbroken c List.mem_cons_self

theorem HasLines.head_eq {chomping : Chomping} {cs : List Char} (h : HasLines chomping cs) :
    ∀ c ∈ cs.head?, isAnyBreak c = false := by
  cases h with
  | unended h => simpa using h.head_eq []
  | ended h => exact h.head_eq _
  | cons h => exact h.head_eq _

/-- Ending a line concerns what stands last in it. -/
theorem endLine_append_of_ne_nil {ds : List Char} (h : ds ≠ []) (cs : List Char) :
    endLine (cs ++ ds) = cs ++ endLine ds := by
  obtain hnil | ⟨before, last, rfl⟩ := List.eq_nil_or_concat ds
  · exact absurd hnil h
  · by_cases hlast : isAnyBreak last = true <;> simp [endLine, hlast]

theorem endLine_concat (cs : List Char) {c : Char} (hc : isAnyBreak c = false) :
    endLine (cs ++ [c]) = cs ++ [c] ++ ['\n'] := by
  simp [endLine, hc]

/-- Breaks end a line. -/
theorem endLine_eq_self {b : Char} {bs : List Char} (hbreaks : ∀ c ∈ b :: bs, isBreak c = true) :
    endLine (b :: bs) = b :: bs := by
  have hlast : isBreak ((b :: bs).getLast (List.cons_ne_nil b bs)) = true :=
    hbreaks _ (List.getLast_mem _)
  rw [endLine, List.getLast?_eq_some_getLast (List.cons_ne_nil b bs), Option.any_some,
    isAnyBreak_of_isBreak hlast, if_pos rfl]

section Written

variable {content bs cs : List Char} {b : Char} {chomping : Chomping}

/-- A line that is not ended, in the document. -/
theorem endLine_content (h : IsContent content) :
    endLine (literalLines false content) = content ++ ['\n'] := by
  have hlines := literalLines_content h.unbroken []
  rw [List.append_nil, literalLines, List.append_nil] at hlines
  obtain ⟨before, last, rfl, hlast⟩ := h.exists_concat
  rw [hlines, endLine_concat _ hlast]

/-- The last line of a text with all its breaks. -/
theorem endLine_breaks (h : IsContent content) (hbreaks : ∀ c ∈ b :: bs, isBreak c = true) :
    endLine (literalLines false (content ++ b :: bs)) = content ++ b :: bs := by
  have hrest := literalLines_breaks (fun c hc ↦ hbreaks c (List.mem_cons_of_mem b hc)) []
  rw [List.append_nil, literalLines, List.append_nil] at hrest
  rw [literalLines_content h.unbroken, literalLines_cons_break (hbreaks b List.mem_cons_self),
    hrest, endLine_append_of_ne_nil (List.cons_ne_nil b bs), endLine_eq_self hbreaks]

/-- The lines of a text start with its first character. -/
theorem HasLines.exists_cons (h : HasLines chomping cs) :
    ∃ c cs' lines rest, cs = c :: cs' ∧ isAnyBreak c = false ∧
      literalLines false cs = c :: lines ∧ endLine (c :: lines) = c :: rest := by
  obtain ⟨c, cs, rfl⟩ := List.exists_cons_of_ne_nil h.ne_nil
  have hc : isAnyBreak c = false := h.head_eq c rfl
  obtain ⟨rest, hrest⟩ : ∃ rest, endLine (c :: literalLines false cs) = c :: rest := by
    rw [endLine]
    split <;> exact ⟨_, rfl⟩
  exact ⟨c, cs, _, rest, rfl, hc, by simp [literalLines, hc], hrest⟩

/-- A line with the breaks after it, in front of more lines. -/
theorem endLine_cons (h : IsContent content) (hbreaks : ∀ c ∈ b :: bs, isBreak c = true)
    (hcs : HasLines chomping cs) :
    endLine (literalLines false (content ++ b :: (bs ++ cs))) =
      content ++ b :: (bs ++ ' ' :: ' ' :: endLine (literalLines false cs)) := by
  have hne : literalLines false cs ≠ [] := by
    obtain ⟨c, -, lines, -, -, -, hlines, -⟩ := hcs.exists_cons
    rw [hlines]
    exact List.cons_ne_nil c lines
  rw [literalLines_content h.unbroken, literalLines_cons_break (hbreaks b List.mem_cons_self),
    literalLines_breaks fun c hc ↦ hbreaks c (List.mem_cons_of_mem b hc),
    literalLines_true hcs.ne_nil hcs.head_eq]
  have hend := endLine_append_of_ne_nil hne (content ++ b :: (bs ++ [' ', ' ']))
  simpa using hend

end Written

/-! ### Reading lines -/

section Reading

variable {more : List Char} {m : Mark}

/-- A gap ends in front of the next line of the record. -/
theorem blockGap_line (indent reach : Nat) (rev : List Char) (m : Mark)
    (hmore : ∀ c ∈ more.head?, isSpace c = false) :
    blockGap false indent rev reach m more =
      some ⟨rev, max reach m.column, ⟨more, m, false⟩⟩ := by
  cases more with
  | nil => rfl
  | cons c cs =>
    have hspace := hmore c rfl
    simp only [isSpace, isBlank, Bool.or_eq_false_iff, beq_eq_false_iff_ne] at hspace
    simp [blockGap, hspace]

/-- Line breaks in a gap are taken up, and lead to the start of a line. -/
theorem blockGap_breaks (indent reach : Nat) (rev rest : List Char) {bs : List Char}
    (h : ∀ c ∈ bs, isBreak c = true) (hm : m.column = 0) :
    ∃ reach' m', m'.column = 0 ∧ blockGap false indent rev reach m (bs ++ rest) =
      blockGap false indent (bs.reverse ++ rev) reach' m' rest := by
  induction bs generalizing rev reach m with
  | nil => exact ⟨reach, m, hm, rfl⟩
  | cons b bs ih =>
    have hbreak := h b List.mem_cons_self
    have hblank := isBlank_of_isBreak hbreak
    simp only [isBlank, Bool.or_eq_false_iff, beq_eq_false_iff_ne] at hblank
    have hstep : blockGap false indent rev reach m (b :: (bs ++ rest)) =
        blockGap false indent (b :: rev) (max reach m.column) m.newLine (bs ++ rest) := by
      simp [blockGap, hblank, hbreak]
    obtain ⟨reach', m', hm', hrest⟩ :=
      ih (max reach m.column) (b :: rev) (m := m.newLine)
        (fun c hc ↦ h c (List.mem_cons_of_mem b hc)) rfl
    refine ⟨reach', m', hm', ?_⟩
    rw [List.cons_append, hstep, hrest, List.reverse_cons, List.append_assoc]
    rfl

/-- A gap ends at content behind two spaces, if this is known to be the indentation, or if nothing
is known of it and no blank comes next. -/
theorem blockGap_content {indent : Nat} (reach : Nat) (rev cs : List Char) {c : Char}
    (hbreak : isBreak c = false) (hindent : indent = 2 ∨ indent = 0 ∧ isBlank c = false)
    (hm : m.column = 0) :
    blockGap false indent rev reach m (' ' :: ' ' :: c :: cs) =
      some ⟨rev, max reach 2, ⟨c :: cs, (m.step ' ').step ' ', false⟩⟩ := by
  rcases hindent with rfl | ⟨rfl, hblank⟩
  · simp [blockGap, Mark.step, hm, hbreak]
  · simp only [isBlank, Bool.or_eq_false_iff, beq_eq_false_iff_ne] at hblank
    simp [blockGap, Mark.step, hm, hbreak, hblank]

variable {chomping : Chomping} {s : BlockState} {bound : Nat}

/-- The scalar ends in front of the next line of the record. -/
theorem blockLines_line (hm : m.column = 0) :
    blockLines false chomping 2 (bound + 1) s ⟨more, m, false⟩ =
      some { text := s.finish chomping, cursor := ⟨more, m, false⟩ } := by
  cases more with
  | nil => rfl
  | cons c cs => simp [blockLines, hm]

/-- One line: its content comes after the breaks that were kept back, and those after it are kept
back in turn. -/
theorem blockLines_content (chomping : Chomping) (s : BlockState) (bound : Nat)
    {content rest : List Char} {b : Char} {gap : BlockGap} (h : IsContent content)
    (hbreak : isBreak b = true) (hm : m.column = 2)
    (hgap : blockGap false 2 [] 0 (m.steps content).newLine rest = some gap) :
    ∃ led, blockLines false chomping 2 (bound + 1) s ⟨content ++ b :: rest, m, false⟩ =
      (blockLines false chomping 2 bound ⟨some b, gap.rev.reverse, led⟩ gap.cursor).map
        (.prepend (s.lineBreak.toList ++ s.blankBreaks ++ content)) := by
  obtain ⟨c, cs, rfl⟩ := List.exists_cons_of_ne_nil h.nonempty
  refine ⟨isBlank c, ?_⟩
  have hrun : (c :: (cs ++ b :: rest)).takeWhile (!isBreak ·) = c :: cs := by
    rw [← List.cons_append, List.takeWhile_append_of_pos]
    · simp [hbreak]
    · intro d hd
      simp [isBreak_of_isAnyBreak_eq_false (h.unbroken d hd)]
  have hforward : Cursor.forward ⟨c :: (cs ++ b :: rest), m, false⟩ (c :: cs).length =
      ⟨b :: rest, m.steps (c :: cs), false⟩ := by
    simp [Cursor.forward]
  rw [List.cons_append, blockLines]
  simp only [hm, hrun, hforward, bne_self_eq_false, Bool.false_eq_true, if_false]
  have hjoin : s.join false (isBlank c) = s.lineBreak.toList ++ s.blankBreaks := by
    simp [BlockState.join]
  rw [hgap, hjoin, Option.map_eq_bind]
  rfl

/-- The lines of a text are read as the text, up to the next line of the record. -/
theorem HasLines.blockLines_eq {cs : List Char} (h : HasLines chomping cs)
    (hmore : ∀ c ∈ more.head?, isSpace c = false) (hm : m.column = 2)
    (hbound : cs.length < bound) :
    ∃ m', m'.column = 0 ∧
      blockLines false chomping 2 bound s ⟨endLine (literalLines false cs) ++ more, m, false⟩ =
        some { text := s.lineBreak.toList ++ s.blankBreaks ++ cs, cursor := ⟨more, m', false⟩ } := by
  induction h generalizing s m bound with
  | @unended content h hdropped =>
    have hlength := List.length_pos_iff.2 h.nonempty
    obtain ⟨bound, rfl⟩ := Nat.exists_eq_add_of_le' (show 2 ≤ bound by omega)
    have hgap := blockGap_line 2 0 [] (m.steps content).newLine hmore
    obtain ⟨led, hline⟩ :=
      blockLines_content chomping s (bound + 1) h (b := '\n') (by decide) hm hgap
    refine ⟨(m.steps content).newLine, rfl, ?_⟩
    rw [endLine_content h, List.append_assoc, List.singleton_append, hline, blockLines_line rfl]
    simp [ScalarEnd.prepend, BlockState.finish, hdropped]
  | @ended content bs b h hbreaks hkept =>
    have hlength := List.length_pos_iff.2 h.nonempty
    rw [List.length_append, List.length_cons] at hbound
    obtain ⟨bound, rfl⟩ := Nat.exists_eq_add_of_le' (show 2 ≤ bound by omega)
    obtain ⟨reach, m', hm', hgap⟩ := blockGap_breaks 2 0 [] more (m := (m.steps content).newLine)
      (fun c hc ↦ hbreaks c (List.mem_cons_of_mem b hc)) rfl
    rw [blockGap_line 2 reach _ m' hmore] at hgap
    obtain ⟨led, hline⟩ :=
      blockLines_content chomping s (bound + 1) h (hbreaks b List.mem_cons_self) hm hgap
    refine ⟨m', hm', ?_⟩
    rw [endLine_breaks h hbreaks, List.append_assoc, List.cons_append, hline, blockLines_line hm']
    have hfinish : (BlockState.mk (some b) bs led).finish chomping = b :: bs := hkept
    simp [ScalarEnd.prepend, hfinish]
  | @cons content bs cs b h hbreaks hcs ih =>
    obtain ⟨bound, rfl⟩ := Nat.exists_eq_add_of_le' (show 1 ≤ bound by omega)
    obtain ⟨c, -, lines, rest, -, hc, hlines, hrest⟩ := hcs.exists_cons
    rw [← hlines] at hrest
    have hc := isBreak_of_isAnyBreak_eq_false hc
    obtain ⟨reach, m', hm', hgap⟩ := blockGap_breaks 2 0 []
      (' ' :: ' ' :: (endLine (literalLines false cs) ++ more)) (m := (m.steps content).newLine)
      (fun c hc ↦ hbreaks c (List.mem_cons_of_mem b hc)) rfl
    rw [hrest, List.cons_append, blockGap_content _ _ _ hc (.inl rfl) hm'] at hgap
    obtain ⟨led, hline⟩ :=
      blockLines_content chomping s bound h (hbreaks b List.mem_cons_self) hm hgap
    have hlength : cs.length < bound := by
      simp only [List.length_append, List.length_cons] at hbound
      omega
    obtain ⟨m'', hm'', hread⟩ := ih (s := ⟨some b, bs, led⟩) (m := (m'.step ' ').step ' ')
      (by simp [Mark.step, hm']) hlength
    rw [hrest, List.cons_append] at hread
    refine ⟨m'', hm'', ?_⟩
    rw [endLine_cons h hbreaks hcs, hrest]
    simp only [List.append_assoc, List.cons_append]
    rw [hline]
    simp [ScalarEnd.prepend, hread]

end Reading

/-! ### The whole scalar -/

theorem isPrintable_of_allowsLiteral {cs : List Char} (h : allowsLiteral cs = true) :
    ∀ c ∈ cs, isPrintable c = true := by
  simp only [allowsLiteral, needsEscapes, Bool.not_eq_true', Bool.or_eq_false_iff,
    Bool.not_eq_false', List.all_eq_true] at h
  exact h.1.2

/-- The sign of a header. -/
def Chomping.sign : Chomping → List Char
  | strip => ['-']
  | clip => []
  | keep => ['+']

theorem chompingSignOf_eq (cs : List Char) : chompingSignOf cs = (chompingOf cs).sign := by
  rcases h : cs.reverse with - | ⟨c, - | ⟨d, ds⟩⟩
  · simp [chompingSignOf, chompingOf, h, Chomping.sign]
  · rcases hc : isAnyBreak c <;> simp [chompingSignOf, chompingOf, h, hc, Chomping.sign]
  · rcases hc : isAnyBreak c <;> rcases hd : isAnyBreak d <;>
      simp [chompingSignOf, chompingOf, h, hc, hd, Chomping.sign]

/-- A header is read as it was written, up to the end of its line. -/
theorem blockHeader_sign (stated : Bool) (chomping : Chomping) (rest : List Char) :
    blockHeader ((if stated then ['2'] else []) ++ (chomping.sign ++ '\n' :: rest)) =
      some (⟨chomping, if stated then 2 else 0⟩, '\n' :: rest) := by
  cases stated <;> cases chomping <;> rfl

/-- Whether the header states the indentation, since the first line does not show it. -/
def statesIndent (cs : List Char) : Bool :=
  cs.head?.any fun c ↦ c == ' ' || isAnyBreak c

/-- Behind its header a literal scalar has its lines. -/
theorem endLine_literalForm {cs : List Char} (hne : literalLines true cs ≠ []) :
    endLine (literalForm cs) =
      '|' :: ((if statesIndent cs then ['2'] else []) ++
        ((chompingOf cs).sign ++ '\n' :: endLine (literalLines true cs))) := by
  have happend := endLine_append_of_ne_nil hne
    ('|' :: ((if statesIndent cs then ['2'] else []) ++ ((chompingOf cs).sign ++ ['\n'])))
  rw [literalForm, chompingSignOf_eq, ← statesIndent]
  simpa using happend

theorem lineEnd_feed (rest : List Char) (m : Mark) :
    lineEnd ⟨'\n' :: rest, m, false⟩ = some ⟨rest, m.newLine, false⟩ := by
  simp [lineEnd, Cursor.skipWhile, Cursor.forward, isBlank, isBreak, Mark.steps]

theorem Cursor.forwardTo_append (before rest : List Char) (m : Mark) :
    Cursor.forwardTo ⟨before ++ rest, m, false⟩ rest = ⟨rest, m.steps before, false⟩ := by
  simp [Cursor.forwardTo, Cursor.forward]

/-- Behind its header a scalar is read as lines of one indentation, which is stated or else is that
of the first line. -/
theorem blockScalar_sign (stated : Bool) (chomping : Chomping) (lines : List Char) (m : Mark) :
    ∃ m', m'.column = 0 ∧ ∀ gap,
      blockGap false (if stated then 2 else 0) [] 0 m' lines = some gap →
        (stated = false → gap.reach = 2) →
          blockScalar false 1
              ⟨(if stated then ['2'] else []) ++ (chomping.sign ++ '\n' :: lines), m, false⟩ =
            blockLines false chomping 2 (gap.cursor.rest.length + 1)
              { blankBreaks := gap.rev.reverse } gap.cursor := by
  refine ⟨(m.steps ((if stated then ['2'] else []) ++ chomping.sign)).newLine, rfl,
    fun gap hgap hreach ↦ ?_⟩
  have hforward := Cursor.forwardTo_append
    ((if stated then ['2'] else []) ++ chomping.sign) ('\n' :: lines) m
  rw [List.append_assoc] at hforward
  rw [blockScalar, blockHeader_sign]
  show (lineEnd _ >>= _) = _
  rw [hforward, lineEnd_feed]
  cases stated with
  | false =>
    have hgap : blockGap false 0 [] 0 (m.steps chomping.sign).newLine lines = some gap := hgap
    show (blockGap false 0 [] 0 (m.steps chomping.sign).newLine lines >>= _) = _
    rw [hgap]
    show blockLines _ _ (max (max gap.reach 1) 1) _ _ _ = _
    rw [hreach rfl]
    rfl
  | true =>
    have hgap : blockGap false 2 [] 0 (m.steps ('2' :: chomping.sign)).newLine lines = some gap :=
      hgap
    show (blockGap false 2 [] 0 (m.steps ('2' :: chomping.sign)).newLine lines >>= _) = _
    rw [hgap]
    rfl

theorem length_le_endLine_literalLines (fresh : Bool) (cs : List Char) :
    cs.length ≤ (endLine (literalLines fresh cs)).length := by
  have hlines : cs.length ≤ (literalLines fresh cs).length := by
    induction cs generalizing fresh with
    | nil => exact Nat.zero_le _
    | cons c cs ih =>
      rw [literalLines]
      split
      next => simpa using ih true
      next =>
        have hrest := ih false
        cases fresh <;> simp <;> omega
  refine Nat.le_trans hlines ?_
  rw [endLine]
  split <;> simp

/-- What is read behind the header of a text: a gap, and the lines after it, which give the text. -/
def ReadsLines (cs more : List Char) (m : Mark) : Prop :=
  ∃ gap m', blockGap false (if statesIndent cs then 2 else 0) [] 0 m
        (endLine (literalLines true cs) ++ more) = some gap ∧
      (statesIndent cs = false → gap.reach = 2) ∧ m'.column = 0 ∧
        blockLines false (chompingOf cs) 2 (gap.cursor.rest.length + 1)
            { blankBreaks := gap.rev.reverse } gap.cursor =
          some { text := cs, cursor := ⟨more, m', false⟩ }

section Whole

variable {cs bs more : List Char} {m : Mark}

/-- A text of nothing but line breaks is all gap. -/
theorem readsLines_breaks (hne : bs ≠ []) (hbreaks : ∀ c ∈ bs, isBreak c = true)
    (hmore : ∀ c ∈ more.head?, isSpace c = false) (hm : m.column = 0) : ReadsLines bs more m := by
  obtain ⟨b, bs, rfl⟩ := List.exists_cons_of_ne_nil hne
  have hlines : literalLines true (b :: bs) = b :: bs := by
    have hall := literalLines_breaks hbreaks []
    rwa [List.append_nil, literalLines, List.append_nil] at hall
  have hstates : statesIndent (b :: bs) = true := by
    simp [statesIndent, isAnyBreak_of_isBreak (hbreaks b List.mem_cons_self)]
  obtain ⟨reach, m', hm', hgap⟩ := blockGap_breaks 2 0 [] more hbreaks hm
  rw [blockGap_line 2 reach _ m' hmore, List.append_nil] at hgap
  refine ⟨⟨(b :: bs).reverse, max reach m'.column, ⟨more, m', false⟩⟩, m', ?_, ?_, hm', ?_⟩
  · rw [hlines, endLine_eq_self hbreaks, hstates]
    exact hgap
  · simp [hstates]
  · rw [chompingOf_breaks hne hbreaks, blockLines_line hm']
    simp [BlockState.finish]

/-- A text with content starts with a gap, and its lines come after that. -/
theorem readsLines_append (hbreaks : ∀ c ∈ bs, isBreak c = true)
    (hlines : HasLines (chompingOf cs) cs) (hprint : ∀ c ∈ cs, isPrintable c = true)
    (hmore : ∀ c ∈ more.head?, isSpace c = false) (hm : m.column = 0) :
    ReadsLines (bs ++ cs) more m := by
  obtain ⟨c, cs', lines, rest, hcons, hc, hfirst, hrest⟩ := hlines.exists_cons
  have hbreak := isBreak_of_isAnyBreak_eq_false hc
  have hwritten : endLine (literalLines true (bs ++ cs)) ++ more =
      bs ++ ' ' :: ' ' :: c :: (rest ++ more) := by
    have hend := endLine_append_of_ne_nil (List.cons_ne_nil c lines) (bs ++ [' ', ' '])
    rw [hrest, List.append_assoc] at hend
    rw [literalLines_breaks hbreaks, literalLines_true hlines.ne_nil hlines.head_eq, hfirst]
    show endLine (bs ++ ([' ', ' '] ++ _)) ++ more = _
    rw [hend]
    simp
  rw [← hfirst] at hrest
  have hread (gap : BlockGap) {m' : Mark} (hrev : gap.rev.reverse = bs) (hm' : m'.column = 0)
      (hcursor : gap.cursor = ⟨c :: (rest ++ more), (m'.step ' ').step ' ', false⟩) :
      ∃ m'', m''.column = 0 ∧ blockLines false (chompingOf (bs ++ cs)) 2
          (gap.cursor.rest.length + 1) { blankBreaks := gap.rev.reverse } gap.cursor =
        some { text := bs ++ cs, cursor := ⟨more, m'', false⟩ } := by
    have hlength := length_le_endLine_literalLines false cs
    have hbound : cs.length < (c :: (rest ++ more)).length + 1 := by
      rw [hrest, List.length_cons] at hlength
      simp only [List.length_cons, List.length_append]
      omega
    have hlast := chompingOf_append hlines.ne_nil hlines.head_eq bs
    obtain ⟨m'', hm'', hread⟩ := hlines.blockLines_eq (s := { blankBreaks := bs }) hmore
      (m := (m'.step ' ').step ' ') (by simp [Mark.step, hm']) hbound
    refine ⟨m'', hm'', ?_⟩
    rw [hrest] at hread
    rw [hlast, hrev, hcursor]
    exact hread
  rw [ReadsLines, hwritten]
  rcases hstates : statesIndent (bs ++ cs) with - | -
  · -- Content comes first, and no space, so the first line shows the indentation.
    obtain rfl : bs = [] := by
      cases bs with
      | nil => rfl
      | cons b bs =>
        have hb := isAnyBreak_of_isBreak (hbreaks b List.mem_cons_self)
        simp [statesIndent, hb] at hstates
    have hblank : isBlank c = false := by
      refine isBlank_of_isPrintable (hprint c (hcons ▸ List.mem_cons_self)) ?_
      rintro rfl
      simp [statesIndent, hcons] at hstates
    have hgap := blockGap_content 0 [] (rest ++ more) hbreak (.inr ⟨rfl, hblank⟩) hm
    obtain ⟨m'', hm'', hread⟩ := hread ⟨[], 2, _⟩ rfl hm rfl
    exact ⟨_, m'', hgap, fun _ ↦ rfl, hm'', hread⟩
  · obtain ⟨reach, m', hm', hgap⟩ := blockGap_breaks 2 0 [] (' ' :: ' ' :: c :: (rest ++ more))
      hbreaks hm
    rw [blockGap_content _ _ _ hbreak (.inl rfl) hm', List.append_nil] at hgap
    obtain ⟨m'', hm'', hread⟩ := hread ⟨_, max reach 2, _⟩ (List.reverse_reverse bs) hm' rfl
    exact ⟨_, m'', hgap, nofun, hm'', hread⟩

end Whole

/-- Whatever its lines are, a text of printable characters is read from them. -/
theorem readsLines_of_isPrintable {cs more : List Char} {m : Mark} (hne : cs ≠ [])
    (hprint : ∀ c ∈ cs, isPrintable c = true) (hmore : ∀ c ∈ more.head?, isSpace c = false)
    (hm : m.column = 0) : ReadsLines cs more m := by
  obtain ⟨bs, rest, rfl, hbs, hrest⟩ := exists_run isAnyBreak cs
  have hbreaks : ∀ c ∈ bs, isBreak c = true := fun c hc ↦ by
    rw [← isAnyBreak_eq_isBreak (hprint c (List.mem_append_left _ hc)), hbs c hc]
  have hprint := fun c hc ↦ hprint c (List.mem_append_right bs hc)
  by_cases hnil : rest = []
  · subst hnil
    rw [List.append_nil] at hne ⊢
    exact readsLines_breaks hne hbreaks hmore hm
  · exact readsLines_append hbreaks (hasLines_of_isPrintable hnil hrest hprint) hprint hmore hm

/-- A literal scalar is read as its text, up to the next line of the record. -/
theorem blockScalar_literalForm {cs more : List Char} (hne : cs ≠ [])
    (hprint : ∀ c ∈ cs, isPrintable c = true) (hmore : ∀ c ∈ more.head?, isSpace c = false)
    (m : Mark) :
    ∃ body m', endLine (literalForm cs) = '|' :: body ∧ m'.column = 0 ∧
      blockScalar false 1 ⟨body ++ more, m, false⟩ =
        some { text := cs, cursor := ⟨more, m', false⟩ } := by
  have hlines : literalLines true cs ≠ [] := by
    cases cs with
    | nil => exact absurd rfl hne
    | cons c cs =>
      rw [literalLines]
      split <;> simp
  obtain ⟨m₁, hm₁, hscalar⟩ := blockScalar_sign (statesIndent cs) (chompingOf cs)
    (endLine (literalLines true cs) ++ more) m
  obtain ⟨gap, m', hgap, hreach, hm', hread⟩ := readsLines_of_isPrintable hne hprint hmore hm₁
  refine ⟨_, m', endLine_literalForm hlines, hm', ?_⟩
  simpa using (hscalar gap hgap hreach).trans hread

end Fitout.Yaml
