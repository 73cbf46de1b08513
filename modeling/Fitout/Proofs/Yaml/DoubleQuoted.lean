import Fitout.Proofs.Text.Numeral
import Fitout.Proofs.Yaml.Gap

/-!
# Double-quoted scalars

Between double quotes every text can be spelled on one line, since every character has an escape
(`SpellsDouble`). Reading goes over the characters one by one; a blank is the only character that is
not taken into the scalar at once, since it might turn out to stand before a line break.

Main statement: `SpellsDouble.doubleQuoted`. What is written for a text spells it
(`spellsDouble_flatMap_escape`).
-/

namespace Fitout.Yaml

/-! ### Code points in hexadecimal digits -/

theorem hexDigit?_toUpper_digitChar : ∀ n < 16, hexDigit? (Nat.digitChar n).toUpper = some n := by
  decide

theorem hexNumber?_append_singleton {cs : List Char} {c : Char} {n d : Nat}
    (hcs : hexNumber? cs = some n) (hc : hexDigit? c = some d) :
    hexNumber? (cs ++ [c]) = some (n * 16 + d) := by
  rw [hexNumber?, List.foldlM_append]
  rw [hexNumber?] at hcs
  simp [hcs, hc]

theorem hexNumber?_zero_cons (cs : List Char) : hexNumber? ('0' :: cs) = hexNumber? cs := by
  have hzero : hexDigit? '0' = some 0 := by decide
  simp [hexNumber?, hzero]

/-- The digits of a number in upper case stand for it. -/
theorem hexNumber?_toDigits (n : Nat) :
    hexNumber? ((Nat.toDigits 16 n).map Char.toUpper) = some n := by
  induction n using Nat.strongRecOn with
  | ind n ih =>
    rw [Nat.toDigits_eq_if (by decide)]
    split
    next hlt =>
      have hdigit := hexDigit?_toUpper_digitChar n hlt
      simp [hexNumber?, hdigit]
    next hge =>
      have hdigit := hexDigit?_toUpper_digitChar (n % 16) (Nat.mod_lt n (by decide))
      rw [List.map_append, List.map_singleton,
        hexNumber?_append_singleton (ih (n / 16) (by omega)) hdigit]
      congr 1
      omega

/-- Zeros in front do not count. -/
theorem hexNumber?_hexDigits (width n : Nat) : hexNumber? (hexDigits width n) = some n := by
  have hzeros (k : Nat) (cs : List Char) :
      hexNumber? (List.replicate k '0' ++ cs) = hexNumber? cs := by
    induction k with
    | zero => rfl
    | succ k ih => rw [List.replicate_succ, List.cons_append, hexNumber?_zero_cons, ih]
  rw [hexDigits, hzeros, hexNumber?_toDigits]

theorem length_hexDigits {width n : Nat} (hle : (Nat.toDigits 16 n).length ≤ width) :
    (hexDigits width n).length = width := by
  simp only [hexDigits, List.length_append, List.length_replicate, List.length_map]
  omega

/-- A code point in hexadecimal digits is read as its character. -/
theorem hexChar?_hexDigits (width : Nat) (c : Char) :
    hexChar? (hexDigits width c.toNat) = some c := by
  have hvalid : c.toNat.isValidChar := c.valid
  rw [hexChar?, hexNumber?_hexDigits]
  simp [hvalid, Char.ofNat_toNat]

/-! ### Spellings -/

/-- The characters between the quotes of a scalar on one line, with the text that they spell. -/
inductive SpellsDouble : List Char → List Char → Prop
  | nil : SpellsDouble [] []
  /-- A character that stands for itself. -/
  | plain {c : Char} {cs s : List Char} (hquote : c ≠ '\x22') (hslash : c ≠ '\\')
      (hallowed : isAllowed c = true) (hbreak : isAnyBreak c = false) (hrest : SpellsDouble cs s) :
      SpellsDouble (c :: cs) (c :: s)
  /-- An escape of two characters. -/
  | short {c e : Char} {cs s : List Char} (he : shortEscape? e = some c)
      (hrest : SpellsDouble cs s) : SpellsDouble ('\\' :: e :: cs) (c :: s)
  /-- An escape with hexadecimal digits, as many as its letter asks for. -/
  | code {letter c : Char} {digits cs s : List Char}
      (hletter : (letter, digits.length) ∈ [('x', 2), ('u', 4), ('U', 8)])
      (hc : hexChar? digits = some c) (hrest : SpellsDouble cs s) :
      SpellsDouble ('\\' :: letter :: (digits ++ cs)) (c :: s)

/-- The character of a short escape announces no digits and is no line break. -/
theorem of_shortEscape? {c e : Char} (h : shortEscape? e = some c) :
    (e ≠ 'x' ∧ e ≠ 'u' ∧ e ≠ 'U') ∧ isBreak e = false := by
  refine ⟨⟨?_, ?_, ?_⟩, ?_⟩
  · rintro rfl
    cases h
  · rintro rfl
    cases h
  · rintro rfl
    cases h
  · rw [Bool.eq_false_iff]
    intro hbreak
    simp only [isBreak, Bool.or_eq_true, beq_iff_eq] at hbreak
    rcases hbreak with (rfl | hcode) | hcode
    · cases h
    · obtain rfl : e = Char.ofNat 0x2028 := by rw [← hcode, Char.ofNat_toNat]
      cases h
    · obtain rfl : e = Char.ofNat 0x2029 := by rw [← hcode, Char.ofNat_toNat]
      cases h

/-! ### One character -/

section Read

variable {gap : Gap} {m : Mark}

/-- A character that stands for itself and is no blank. -/
theorem doubleQuoted_cons {c : Char} (cs : List Char) (hquote : c ≠ '\x22') (hslash : c ≠ '\\')
    (hblank : isBlank c = false) (hbreak : isBreak c = false) (hcolumn : m.column ≠ 0) :
    doubleQuoted false gap m (c :: cs) =
      (doubleQuoted false .none (m.step c) cs).map (.prepend (gap.fold ++ [c])) := by
  rw [doubleQuoted]
  · simp [inSight, hblank, hbreak, hslash, hcolumn]
  · exact hquote
  all_goals simp [hslash]

/-- A blank, which is kept back. -/
theorem doubleQuoted_blank {c : Char} (cs : List Char) (hblank : isBlank c = true) :
    doubleQuoted false gap m (c :: cs) = doubleQuoted false (gap.addBlank c) (m.step c) cs := by
  have hquote : c ≠ '\x22' := by
    rintro rfl
    exact absurd hblank (by decide)
  have hslash : c ≠ '\\' := by
    rintro rfl
    exact absurd hblank (by decide)
  rw [doubleQuoted]
  · simp [inSight, hblank]
  · exact hquote
  all_goals simp [hslash]

/-- An escape of two characters. -/
theorem doubleQuoted_short {c e : Char} (cs : List Char) (h : shortEscape? e = some c) :
    doubleQuoted false gap m ('\\' :: e :: cs) =
      (doubleQuoted false .none ((m.step '\\').step e) cs).map (.prepend (gap.fold ++ [c])) := by
  obtain ⟨hhex, hbreak⟩ := of_shortEscape? h
  rw [doubleQuoted]
  · simp [inSight, hbreak, h]
  all_goals simp [hhex]

/-- An escape with hexadecimal digits. -/
theorem doubleQuoted_code {letter c : Char} {digits : List Char} (cs : List Char)
    (hletter : (letter, digits.length) ∈ [('x', 2), ('u', 4), ('U', 8)])
    (hc : hexChar? digits = some c) :
    doubleQuoted false gap m ('\\' :: letter :: (digits ++ cs)) =
      (doubleQuoted false .none (m.steps ('\\' :: letter :: digits)) cs).map
        (.prepend (gap.fold ++ [c])) := by
  simp only [List.mem_cons, Prod.mk.injEq, List.not_mem_nil, or_false] at hletter
  rcases hletter with ⟨rfl, hlength⟩ | ⟨rfl, hlength⟩ | ⟨rfl, hlength⟩
  · match digits, hlength with
    | [d₁, d₂], _ => simp [doubleQuoted, hc]
  · match digits, hlength with
    | [d₁, d₂, d₃, d₄], _ => simp [doubleQuoted, hc]
  · match digits, hlength with
    | [d₁, d₂, d₃, d₄, d₅, d₆, d₇, d₈], _ => simp [doubleQuoted, hc]

/-! ### The whole scalar -/

/-- What spells a text between double quotes is read as the text, from in front of anything. -/
theorem SpellsDouble.doubleQuoted {cs s : List Char} (h : SpellsDouble cs s) (rest : List Char)
    (hgap : gap.isBroken = false) (hcolumn : m.column ≠ 0) :
    ∃ m', Yaml.doubleQuoted false gap m (cs ++ '\x22' :: rest) =
      some { text := gap.fold ++ s, cursor := ⟨rest, m', false⟩ } := by
  have hnone : Gap.none.isBroken = false := rfl
  induction h generalizing gap m with
  | nil =>
    refine ⟨m.step '\x22', ?_⟩
    rw [List.nil_append, Yaml.doubleQuoted]
    simp [inSight]
  | @plain c cs s hquote hslash hallowed hbreak _ ih =>
    -- As between single quotes, a blank is kept back and taken in with what comes next.
    rw [List.cons_append]
    rcases hblank : isBlank c with - | -
    · obtain ⟨m', hread⟩ := ih (m := m.step c) hnone (Nat.succ_ne_zero _)
      rw [doubleQuoted_cons _ hquote hslash hblank (isBreak_of_isAnyBreak_eq_false hbreak) hcolumn,
        hread]
      exact ⟨m', by simp [ScalarEnd.prepend, Gap.fold]⟩
    · obtain ⟨m', hread⟩ := ih (m := m.step c) (Gap.isBroken_addBlank hgap c) (Nat.succ_ne_zero _)
      rw [doubleQuoted_blank _ hblank, hread, Gap.fold_addBlank hgap]
      exact ⟨m', by simp⟩
  | @short c e cs s he _ ih =>
    obtain ⟨m', hread⟩ := ih (m := (m.step '\\').step e) hnone (Nat.succ_ne_zero _)
    rw [List.cons_append, List.cons_append, doubleQuoted_short _ he, hread]
    exact ⟨m', by simp [ScalarEnd.prepend, Gap.fold]⟩
  | @code letter c digits cs s hletter hc _ ih =>
    obtain ⟨m', hread⟩ := ih (m := m.steps ('\\' :: letter :: digits)) hnone (by simp)
    rw [List.cons_append, List.cons_append, List.append_assoc, doubleQuoted_code _ hletter hc,
      hread]
    exact ⟨m', by simp [ScalarEnd.prepend, Gap.fold]⟩

end Read

/-! ### Written texts -/

/-- A written code point spells its character. -/
theorem SpellsDouble.hexDigits_append {letter c : Char} {width : Nat}
    (hletter : (letter, width) ∈ [('x', 2), ('u', 4), ('U', 8)])
    (hle : (Nat.toDigits 16 c.toNat).length ≤ width) {cs s : List Char} (h : SpellsDouble cs s) :
    SpellsDouble (['\\', letter] ++ hexDigits width c.toNat ++ cs) (c :: s) := by
  rw [← length_hexDigits hle] at hletter
  exact code hletter (hexChar?_hexDigits width c) h

/-- A written character spells itself. -/
theorem SpellsDouble.escape_append (c : Char) {cs s : List Char} (h : SpellsDouble cs s) :
    SpellsDouble (escape c ++ cs) (c :: s) := by
  have hshort {n : Nat} {e : Char} (hc : c.toNat = n) (he : shortEscape? e = some (Char.ofNat n)) :
      SpellsDouble (['\\', e] ++ cs) (c :: s) := by
    rw [← hc, Char.ofNat_toNat] at he
    exact short he h
  unfold escape
  split
  next hplain =>
    simp only [Bool.and_eq_true, bne_iff_ne, ne_eq, Bool.not_eq_true'] at hplain
    obtain ⟨⟨⟨hprint, hquote⟩, hslash⟩, hbreak⟩ := hplain
    exact plain hquote hslash (isAllowed_of_isPrintable hprint) hbreak h
  next =>
    split
    -- The last case has no letter of its own; the width follows from the size of the code point.
    case h_15 =>
      have hvalid : c.toNat < 16 ^ 8 := by
        have hchar : c.toNat.isValidChar := c.valid
        rcases hchar with h | ⟨-, h⟩ <;> omega
      have hlength {width : Nat} (hpos : 0 < width) :=
        Nat.length_toDigits_le_iff (b := 16) (n := c.toNat) (by decide) hpos
      split
      next hle => exact h.hexDigits_append (by decide) ((hlength (by decide)).2 (by omega))
      split
      next hle => exact h.hexDigits_append (by decide) ((hlength (by decide)).2 (by omega))
      next => exact h.hexDigits_append (by decide) ((hlength (by decide)).2 hvalid)
    all_goals exact hshort ‹_› (by decide)

/-- A written text spells itself. -/
theorem spellsDouble_flatMap_escape (s : List Char) : SpellsDouble (s.flatMap escape) s := by
  induction s with
  | nil => exact .nil
  | cons c cs ih =>
    rw [List.flatMap_cons]
    exact ih.escape_append c

end Fitout.Yaml
