import Fitout.Text.Blank
import Fitout.Text.Decimal
import Mathlib.Data.List.Forall2

/-!
# Written numerals

What the digits of a written number look like and what they read back as, for the readers of
identifiers and of the document formats: only digits, at least one, no blank to trim
(`trimChars_write`), no zero in front of another digit (`toDigits_ne_zero_cons`), and a
left-to-right sum that grows with every digit (`le_ofDigitChars`).
-/

namespace Fitout

/-- A character of a class is none outside it. -/
theorem ne_of_class {p : Char → Bool} {c d : Char} (hc : p c = true) (hd : p d = false) :
    c ≠ d := by
  rintro rfl
  rw [hc] at hd
  exact absurd hd (by decide)

theorem toNat_of_isDigit {c : Char} (hc : c.isDigit = true) : 48 ≤ c.toNat ∧ c.toNat ≤ 57 := by
  simpa [Char.isDigit, UInt32.le_iff_toNat_le] using hc

namespace Text

theorem isBlank_of_isDigit {c : Char} (h : c.isDigit = true) : isBlank c = false := by
  have hcode := toNat_of_isDigit h
  simp only [isBlank, Bool.or_eq_false_iff, Bool.and_eq_false_iff, decide_eq_false_iff_not,
    beq_eq_false_iff_ne]
  omega

/-- Without blanks there is nothing to trim. -/
theorem trimChars_eq_self {cs : List Char} (h : ∀ c ∈ cs, isBlank c = false) :
    trimChars cs = cs := by
  have hstart : trimStart cs = cs :=
    dropWhile_eq_self fun c r hc ↦ h c (hc ▸ List.mem_cons_self)
  have hend : cs.reverse.dropWhile isBlank = cs.reverse :=
    dropWhile_eq_self fun c r hc ↦ h c (List.mem_reverse.1 (hc ▸ List.mem_cons_self))
  rw [trimChars, hstart, trimEnd, hend, List.reverse_reverse]

end Text

namespace Decimal

theorem isDigit_of_mem_toDigits {n : Nat} {c : Char} (h : c ∈ Nat.toDigits 10 n) :
    c.isDigit = true :=
  Nat.isDigit_of_mem_toDigits (by decide) (by decide) h

/-- The digits of a number have a first one. -/
theorem exists_toDigits_eq_cons (n : Nat) :
    ∃ d ds, Nat.toDigits 10 n = d :: ds ∧ d.isDigit = true := by
  obtain ⟨d, ds, h⟩ := List.exists_cons_of_ne_nil (Nat.toDigits_ne_nil (b := 10) (n := n))
  exact ⟨d, ds, h, isDigit_of_mem_toDigits (n := n) (h ▸ List.mem_cons_self)⟩

theorem trimChars_write (n : Nat) : Text.trimChars (write n).toList = (write n).toList := by
  refine Text.trimChars_eq_self fun c hc ↦ Text.isBlank_of_isDigit ?_
  exact isDigit_of_mem_toDigits (toList_write n ▸ hc)

/-- A number that is written without a sign is read without one. -/
theorem unsigned?_write (n : Nat) : unsigned? (write n).toList = some n := by
  obtain ⟨d, ds, hds, hd⟩ := exists_toDigits_eq_cons n
  have hplus : d ≠ '+' := ne_of_class hd (by decide)
  have hwrite := natural?_write n
  rw [toList_write, hds] at hwrite ⊢
  unfold unsigned?
  split
  · next heq => exact absurd (List.cons.inj heq).1 hplus
  · exact hwrite

/-- A zero in front of another digit is never written. -/
theorem toDigits_ne_zero_cons (n : Nat) (d : Char) (ds : List Char) :
    Nat.toDigits 10 n ≠ '0' :: d :: ds := by
  induction n using Nat.strongRecOn generalizing d ds with
  | ind n ih =>
    intro h
    rcases Nat.lt_or_ge n 10 with hlt | hge
    · rw [Nat.toDigits_of_lt_base hlt] at h
      simp at h
    · rw [Nat.toDigits_of_base_le (by decide) hge] at h
      obtain ⟨e, es, he, -⟩ := exists_toDigits_eq_cons (n / 10)
      have hzero : e = '0' := by
        rw [he, List.cons_append] at h
        exact (List.cons.inj h).1
      cases es with
      | nil =>
        -- The digit before the last stands for `n / 10`, which is not zero.
        have hval : Nat.ofDigitChars 10 (Nat.toDigits 10 (n / 10)) 0 = 0 := by
          rw [he, hzero]
          rfl
        rw [Nat.ofDigitChars_ten_toDigits] at hval
        omega
      | cons f fs => exact ih (n / 10) (by omega) f fs (hzero ▸ he)

/-- A number fits 32 bits if it is one of 32 bits. -/
theorem fitWord_eq_some_iff {n : Nat} {w : UInt32} : fitWord n = some w ↔ n = w.toNat := by
  constructor
  · intro h
    rw [fitWord, Option.ite_none_right_eq_some] at h
    obtain ⟨hlt, hw⟩ := h
    rw [← Option.some.inj hw, UInt32.toNat_ofNat_of_lt' hlt]
  · rintro rfl
    exact fitWord_toNat w

/-- Reading digits from left to right never makes the number smaller. -/
theorem le_ofDigitChars (cs : List Char) (n : Nat) : n ≤ Nat.ofDigitChars 10 cs n := by
  rw [Nat.ofDigitChars_eq_ofDigitChars_zero]
  have : 0 < 10 ^ cs.length := Nat.pow_pos (by decide)
  calc n = 1 * n := (Nat.one_mul n).symm
    _ ≤ 10 ^ cs.length * n := Nat.mul_le_mul_right n this
    _ ≤ 10 ^ cs.length * n + Nat.ofDigitChars 10 cs 0 := Nat.le_add_right _ _

end Decimal

end Fitout
