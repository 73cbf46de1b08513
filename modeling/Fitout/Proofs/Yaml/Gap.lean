import Fitout.Yaml.FlowScalar
import Fitout.Yaml.Writer

/-!
# Gaps inside written scalars

A reader of plain and quoted scalars keeps blanks and line breaks back until it knows what comes
after them. Where a writer never puts a blank next to a line break, and never writes a line feed
as such, what is kept back is exactly what was written: a character more in the gap is a character
more in the scalar (`Gap.fold_addBlank`, `Gap.Follows.fold_addBreak`).
-/

namespace Fitout.Yaml

/-! ### Written characters -/

theorem isBlank_of_isPrintable {c : Char} (hprint : isPrintable c = true) (hspace : c ≠ ' ') :
    isBlank c = false := by
  have htab : c ≠ '\t' := by
    rintro rfl
    exact absurd hprint (by decide)
  simp [isBlank, hspace, htab]

theorem isAllowed_of_isPrintable {c : Char} (h : isPrintable c = true) : isAllowed c = true := by
  simp only [isPrintable, Bool.or_eq_true, Bool.and_eq_true, beq_iff_eq, decide_eq_true_eq] at h
  simp only [isAllowed, Bool.or_eq_true, Bool.and_eq_true, beq_iff_eq, decide_eq_true_eq]
  omega

/-- The writer and the reader agree on the line breaks among the characters that are written as
they are. -/
theorem isAnyBreak_eq_isBreak {c : Char} (hprint : isPrintable c = true) :
    isAnyBreak c = isBreak c := by
  have hreturn : c ≠ '\r' := by
    rintro rfl
    exact absurd hprint (by decide)
  have hnext : c.toNat ≠ 0x85 := by
    intro h
    simp [isPrintable, h] at hprint
  rw [isAnyBreak, beq_false_of_ne hreturn, beq_false_of_ne hnext, Bool.or_false, Bool.or_false]

theorem isBlank_of_isBreak {c : Char} (h : isBreak c = true) : isBlank c = false := by
  simp only [isBreak, Bool.or_eq_true, beq_iff_eq] at h
  rcases h with (rfl | h) | h
  · decide
  · obtain rfl : c = Char.ofNat 0x2028 := by rw [← h, Char.ofNat_toNat]
    decide
  · obtain rfl : c = Char.ofNat 0x2029 := by rw [← h, Char.ofNat_toNat]
    decide

theorem isAnyBreak_of_isBreak {c : Char} (h : isBreak c = true) : isAnyBreak c = true := by
  simp [isAnyBreak, h]

theorem isBreak_of_isAnyBreak_eq_false {c : Char} (h : isAnyBreak c = false) :
    isBreak c = false := by
  simp only [isAnyBreak, Bool.or_eq_false_iff] at h
  exact h.1.1

/-! ### Places -/

namespace Mark

@[simp]
theorem line_steps (m : Mark) (cs : List Char) : (m.steps cs).line = m.line := by
  induction cs generalizing m with
  | nil => rfl
  | cons c cs ih => exact ih (m.step c)

@[simp]
theorem column_steps (m : Mark) (cs : List Char) :
    (m.steps cs).column = m.column + cs.length := by
  induction cs generalizing m with
  | nil => rfl
  | cons c cs ih =>
    rw [List.length_cons, Nat.add_comm cs.length, ← Nat.add_assoc]
    exact ih (m.step c)

theorem index_steps_le (m : Mark) (cs : List Char) :
    (m.steps cs).index ≤ m.index + 4 * cs.length := by
  induction cs generalizing m with
  | nil => exact Nat.le_refl _
  | cons c cs ih =>
    have hsize : (m.step c).index ≤ m.index + 4 := Nat.add_le_add_left c.utf8Size_le_four _
    have hrest : (m.steps (c :: cs)).index ≤ (m.step c).index + 4 * cs.length := ih (m.step c)
    rw [List.length_cons]
    omega

end Mark

namespace Gap

/-! ### Blanks -/

theorem fold_addBlank {gap : Gap} (hgap : gap.isBroken = false) (c : Char) :
    (gap.addBlank c).fold = gap.fold ++ [c] := by
  cases gap with
  | none => rfl
  | blanks rev => exact List.reverse_cons
  | breaks first rev => simp [isBroken] at hgap

theorem isBroken_addBlank {gap : Gap} (hgap : gap.isBroken = false) (c : Char) :
    (gap.addBlank c).isBroken = false := by
  cases gap with
  | none | blanks rev => rfl
  | breaks first rev => simp [isBroken] at hgap

/-! ### Line breaks -/

theorem fold_breaks {b : Char} (hb : b ≠ '\n') (rev : List Char) :
    (breaks (some b) rev).fold = b :: rev.reverse := by
  unfold fold
  split <;> simp_all

/-- The gap after a character of a scalar, if there is no blank next to a line break and no line
feed: nothing after a character that was taken in, blanks after a space, line breaks after a line
break. -/
inductive Follows : Char → Gap → Prop
  /-- Nothing is kept back. -/
  | taken {a : Char} (h : isSpace a = false) : Follows a none
  /-- Blanks are kept back. -/
  | space {rev : List Char} : Follows ' ' (blanks rev)
  /-- Line breaks are kept back. -/
  | lineBreak {a b : Char} {rev : List Char} (ha : isBreak a = true) (hb : b ≠ '\n') :
    Follows a (breaks (some b) rev)

variable {gap : Gap} {a : Char}

theorem Follows.isBroken_eq (h : Follows a gap) : gap.isBroken = isBreak a := by
  cases h with
  | taken h =>
    simp only [isSpace, Bool.or_eq_false_iff] at h
    exact h.2.symm
  | space => rfl
  | lineBreak ha => exact ha.symm

/-- Only spaces and line breaks are kept back. -/
theorem Follows.eq_none (h : Follows a gap) (hspace : a ≠ ' ') (hbreak : isBreak a = false) :
    gap = none := by
  cases h with
  | taken => rfl
  | space => exact absurd rfl hspace
  | lineBreak ha => exact absurd ha (by simp [hbreak])

theorem Follows.addBlank (h : Follows a gap) (ha : isBreak a = false) :
    Follows ' ' (gap.addBlank ' ') := by
  cases h with
  | taken | space => exact .space
  | lineBreak hbreak =>
    rw [ha] at hbreak
    exact absurd hbreak (by decide)

/-- A line break more in the gap is a line break more in the scalar. -/
theorem Follows.fold_addBreak (h : Follows a gap) (ha : a ≠ ' ') {c : Char} (hc : c ≠ '\n') :
    (gap.addBreak c).fold = gap.fold ++ [c] := by
  cases h with
  | taken => exact fold_breaks hc []
  | space => exact absurd rfl ha
  | @lineBreak _ b rev _ hb =>
    show (breaks (some b) (c :: rev)).fold = _
    rw [fold_breaks hb, fold_breaks hb, List.reverse_cons]
    rfl

theorem Follows.addBreak (h : Follows a gap) (ha : a ≠ ' ') {c : Char} (hbreak : isBreak c = true)
    (hc : c ≠ '\n') : Follows c (gap.addBreak c) := by
  cases h with
  | taken => exact .lineBreak hbreak hc
  | space => exact absurd rfl ha
  | lineBreak _ hb => exact .lineBreak hbreak hb

/-- Blanks after a line break do not count. -/
theorem addBlank_addBreak (gap : Gap) (b c : Char) :
    (gap.addBreak c).addBlank b = gap.addBreak c := by
  cases gap <;> rfl

end Gap

end Fitout.Yaml
