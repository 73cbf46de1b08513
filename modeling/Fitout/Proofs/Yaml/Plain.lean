import Fitout.Proofs.Yaml.Gap

/-!
# Written plain scalars

A plain scalar has no delimiters: it goes on until a colon or a comment starts, or until the next
line is indented too little. What is written plain holds neither (`plainScalar_append`), so it ends
with its line (`plainScalar_line`). The key of an entry is a word in front of a colon
(`plainScalar_word`).
-/

namespace Fitout.Yaml

variable {edge : Nat} {gap : Gap} {m : Mark}

/-! ### Inside a line -/

theorem plainScalar_blank {c : Char} (cs : List Char) (hblank : isBlank c = true)
    (hgap : gap.isBroken = false) :
    plainScalar false false edge gap m (c :: cs) =
      plainScalar false false edge (gap.addBlank c) (m.step c) cs := by
  simp [plainScalar, inSight, hblank, hgap]

/-- A character that is taken in: no indicator starts here. -/
theorem plainScalar_cons {c : Char} (cs : List Char) (hspace : isSpace c = false)
    (hcolon : c = ':' → atSpace cs = false)
    (hgap : gap ≠ .none → edge ≤ m.column ∧ m.column ≠ 0 ∧ c ≠ '#') :
    plainScalar false false edge gap m (c :: cs) =
      (plainScalar false false edge .none (m.step c) cs).map (.prepend (gap.fold ++ [c])) := by
  simp only [isSpace, Bool.or_eq_false_iff] at hspace
  have hstops : stopsPlain false c cs = false := by
    by_cases h : c = ':' <;> simp [stopsPlain, h, hcolon]
  have hgoes : (gap != .none && (isOutdented false edge m || stopsAfterGap m c cs)) = false := by
    by_cases h : gap = .none
    · simp [h]
    · obtain ⟨hedge, hcolumn, hcomment⟩ := hgap h
      have hedge : ¬ m.column < edge := by omega
      simp [isOutdented, stopsAfterGap, hedge, hcolumn, hcomment]
  rw [plainScalar]
  simp [inSight, hspace, hstops, hgoes]

theorem holdsIndicator_cons_cons {a c : Char} {cs : List Char}
    (h : holdsIndicator (a :: c :: cs) = false) :
    (c = ':' → atGap cs = false) ∧ (c = '#' → atGap [a] = false) ∧
      holdsIndicator (c :: cs) = false := by
  simp only [holdsIndicator, Bool.or_eq_false_iff] at h
  refine ⟨?_, ?_, h.2⟩
  · rintro rfl
    simpa using h.1.1
  · rintro rfl
    simpa using h.1.2

theorem atSpace_append {cs : List Char} (h : atGap cs = false) (rest : List Char) :
    atSpace (cs ++ rest) = false := by
  cases cs with
  | nil => exact absurd h (by decide)
  | cons c cs =>
    simp only [atGap, Bool.or_eq_false_iff] at h
    simp [atSpace, isSpace, h.1.1, isBreak_of_isAnyBreak_eq_false h.1.2]

/-- A text that is written plain is taken in up to whatever follows it. The character before it
decides whether blanks are kept back; the last character is no blank. -/
theorem plainScalar_append (cs : List Char) {a : Char} {rest : List Char}
    (hgap : Gap.Follows a gap) (ha : isBreak a = false)
    (hprint : ∀ c ∈ cs, isPrintable c = true ∧ isBreak c = false)
    (hholds : holdsIndicator (a :: cs) = false) (hlast : (a :: cs).getLast? ≠ some ' ')
    (hedge : edge ≤ m.column) (hcolumn : m.column ≠ 0) :
    plainScalar false false edge gap m (cs ++ rest) =
      (plainScalar false false edge .none (m.steps cs) rest).map (.prepend (gap.fold ++ cs)) := by
  have hbroken : gap.isBroken = false := hgap.isBroken_eq.trans ha
  induction cs generalizing a gap m with
  | nil =>
    obtain rfl : gap = .none := hgap.eq_none (by rintro rfl; exact hlast rfl) ha
    show plainScalar false false edge .none m rest = _
    rw [List.append_nil]
    show _ = Option.map (fun e ↦ e) _
    rw [Option.map_id']
    rfl
  | cons c cs ih =>
    have hprints := fun d hd ↦ hprint d (List.mem_cons_of_mem c hd)
    obtain ⟨hprint, hbreak⟩ := hprint c List.mem_cons_self
    obtain ⟨hcolon, hcomment, hholds⟩ := holdsIndicator_cons_cons hholds
    have hlast : (c :: cs).getLast? ≠ some ' ' := by
      rwa [List.getLast?_cons_cons] at hlast
    have hedge' : edge ≤ (m.step c).column := Nat.le_succ_of_le hedge
    have hcolumn' : (m.step c).column ≠ 0 := Nat.succ_ne_zero _
    by_cases hspace : c = ' '
    · subst hspace
      rw [List.cons_append, plainScalar_blank _ (by decide) hbroken,
        ih (hgap.addBlank ha) (by decide) hprints hholds hlast hedge' hcolumn'
          (Gap.isBroken_addBlank hbroken ' '), Gap.fold_addBlank hbroken, List.append_assoc]
      rfl
    · have hnoSpace : isSpace c = false := by
        simp [isSpace, hbreak, isBlank_of_isPrintable hprint hspace]
      have hgoes : gap ≠ .none → edge ≤ m.column ∧ m.column ≠ 0 ∧ c ≠ '#' := by
        intro hne
        refine ⟨hedge, hcolumn, ?_⟩
        rintro rfl
        -- A number sign after a space would start a comment.
        refine hne (hgap.eq_none ?_ ha)
        rintro rfl
        exact absurd (hcomment rfl) (by decide)
      rw [List.cons_append, plainScalar_cons _ hnoSpace (fun h ↦ atSpace_append (hcolon h) rest)
        hgoes, ih (.taken hnoSpace) hbreak hprints hholds hlast hedge' hcolumn' rfl, Option.map_map]
      congr 1
      funext e
      simp [ScalarEnd.prepend, Gap.fold]

/-! ### Ends -/

theorem plainScalar_feed (cs : List Char) :
    plainScalar false false edge .none m ('\n' :: cs) =
      plainScalar false false edge (Gap.none.addBreak '\n') m.newLine cs := by
  rw [plainScalar]
  simp [inSight, isBlank, isBreak]

/-- A scalar ends with its line if the next line is not indented far enough. -/
theorem plainScalar_line {more : List Char} (hmore : ∀ c ∈ more.head?, isSpace c = false)
    (hedge : 0 < edge) :
    plainScalar false false edge .none m ('\n' :: more) =
      some ⟨[], ⟨more, m.newLine, false⟩, true⟩ := by
  rw [plainScalar_feed]
  cases more with
  | nil => simp [plainScalar, Gap.addBreak, Gap.isBroken]
  | cons c cs =>
    have hspace : isBlank c = false ∧ isBreak c = false := by
      simpa [isSpace] using hmore c rfl
    rw [plainScalar]
    simp [inSight, hspace, Gap.addBreak, Gap.isBroken, isOutdented, Mark.newLine, hedge]

/-- A text that may be written plain. -/
structure IsPlain (cs : List Char) : Prop where
  /-- Its characters are written as they are. -/
  printable : ∀ c ∈ cs, isPrintable c = true
  /-- It stays on a line. -/
  unbroken : ∀ c ∈ cs, isAnyBreak c = false
  /-- No space comes first. -/
  head : cs.head? ≠ some ' '
  /-- No space comes last. -/
  last : cs.getLast? ≠ some ' '
  /-- It does not start as an indicator. -/
  starts : startsAsIndicator cs = false
  /-- It holds no indicator. -/
  holds : holdsIndicator cs = false

theorem isPlain_of_allowsPlain {cs : List Char} (h : allowsPlain cs = true) : IsPlain cs := by
  simp only [allowsPlain, needsEscapes, Bool.not_eq_true', Bool.or_eq_false_iff,
    Bool.not_eq_false', List.all_eq_true, List.any_eq_false, Bool.not_eq_true,
    beq_eq_false_iff_ne] at h
  obtain ⟨⟨⟨⟨⟨⟨-, hprint⟩, hbreak⟩, hhead⟩, hlast⟩, hstarts⟩, hholds⟩ := h
  exact ⟨hprint, hbreak, hhead, hlast, hstarts, hholds⟩

namespace IsPlain

variable {c : Char} {cs : List Char}

theorem isSpace_head (h : IsPlain (c :: cs)) : isSpace c = false := by
  have hne : c ≠ ' ' := by
    rintro rfl
    exact h.head rfl
  rw [isSpace, isBlank_of_isPrintable (h.printable c List.mem_cons_self) hne,
    isBreak_of_isAnyBreak_eq_false (h.unbroken c List.mem_cons_self)]
  rfl

theorem head_ne (h : IsPlain (c :: cs)) : c ≠ '#' := by
  rintro rfl
  simpa [startsAsIndicator, isIndicator] using h.starts

/-- A text that does not start as an indicator holds none after another character either. -/
theorem holdsIndicator_cons (h : IsPlain cs) : holdsIndicator ('x' :: cs) = false := by
  cases cs with
  | nil => rfl
  | cons c cs =>
    have hstarts := h.starts
    simp only [startsAsIndicator, Bool.or_eq_false_iff] at hstarts
    have hgap : c = ':' → atGap cs = false := by
      rintro rfl
      simpa using hstarts.2
    rw [holdsIndicator, h.holds]
    by_cases hcolon : c = ':' <;> simp [hcolon, hgap, h.head_ne]

/-- A text on its line is taken in up to whatever follows it. -/
theorem plainScalar_eq_map (h : IsPlain cs) (hpos : 0 < edge) (hedge : edge ≤ m.column)
    (rest : List Char) :
    plainScalar false false edge .none m (cs ++ rest) =
      (plainScalar false false edge .none (m.steps cs) rest).map (.prepend cs) := by
  have hlast : ('x' :: cs).getLast? ≠ some ' ' := by
    cases cs with
    | nil => decide
    | cons c cs => rw [List.getLast?_cons_cons]; exact h.last
  exact plainScalar_append (a := 'x') cs (.taken (by decide)) (by decide)
    (fun c hc ↦ ⟨h.printable c hc, isBreak_of_isAnyBreak_eq_false (h.unbroken c hc)⟩)
    h.holdsIndicator_cons hlast hedge (by omega)

/-- A text on its line is read as itself. -/
theorem plainScalar_eq {more : List Char} (h : IsPlain cs) (hpos : 0 < edge)
    (hedge : edge ≤ m.column) (hmore : ∀ c ∈ more.head?, isSpace c = false) :
    plainScalar false false edge .none m (cs ++ '\n' :: more) =
      some ⟨cs, ⟨more, (m.steps cs).newLine, false⟩, true⟩ := by
  rw [h.plainScalar_eq_map hpos hedge, plainScalar_line hmore hpos]
  simp [ScalarEnd.prepend]

/-- A text at the end of all is read as itself. -/
theorem plainScalar_eq_of_over (h : IsPlain cs) (hpos : 0 < edge) (hedge : edge ≤ m.column) :
    plainScalar false false edge .none m cs = some ⟨cs, ⟨[], m.steps cs, false⟩, false⟩ := by
  have hread := h.plainScalar_eq_map hpos hedge []
  rw [List.append_nil] at hread
  rw [hread]
  simp [plainScalar, ScalarEnd.prepend, Gap.isBroken]

end IsPlain

/-- A word in front of a colon is a scalar. -/
theorem plainScalar_word {word : List Char} (rest : List Char)
    (hword : ∀ c ∈ word, isSpace c = false ∧ c ≠ ':') :
    plainScalar false false edge .none m (word ++ ':' :: ' ' :: rest) =
      some ⟨word, ⟨':' :: ' ' :: rest, m.steps word, false⟩, false⟩ := by
  induction word generalizing m with
  | nil =>
    rw [List.nil_append, plainScalar]
    simp [inSight, isBlank, isBreak, stopsPlain, atSpace, isSpace, Gap.isBroken, Mark.steps]
  | cons c cs ih =>
    obtain ⟨hspace, hcolon⟩ := hword c List.mem_cons_self
    rw [List.cons_append, plainScalar_cons _ hspace (fun h ↦ absurd h hcolon) (absurd rfl),
      ih fun d hd ↦ hword d (List.mem_cons_of_mem c hd)]
    rfl

end Fitout.Yaml
