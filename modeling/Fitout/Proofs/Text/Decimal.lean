import Fitout.Proofs.Text.Blank
import Fitout.Proofs.Text.Numeral
import Mathlib.Data.Nat.Digits.Defs

/-!
# Texts that state a number

A text states a number if it is a run of decimal digits whose places add up to the number, perhaps
with a plus sign in front and with blanks around it (`Decimal.States`). The reader of trimmed texts
finds exactly the numbers that are stated (`Decimal.unsigned?_trimChars_eq_some_iff`). Numbers are
read at any size first, so whether one fits 32 bits is asked of the number and not of the length of
the text (`Decimal.word?_trimChars_eq_none_iff`).
-/

namespace Fitout.Decimal

/-- The value of a single digit. -/
def digit (d : Char) : Nat :=
  d.toNat - '0'.toNat

/-- The number that digits stand for: each counts by its place, and the last one counts once. -/
def value (ds : List Char) : Nat :=
  Nat.ofDigits 10 (ds.reverse.map digit)

/-- A text that states a number. -/
inductive States : List Char → Nat → Prop
  /-- Digits, at least one, with or without a plus sign; blanks stand around. -/
  | mk {before sign ds after : List Char} (hbefore : ∀ c ∈ before, Text.isBlank c = true)
      (hsign : sign = [] ∨ sign = ['+']) (hne : ds ≠ []) (hds : ∀ d ∈ ds, d.isDigit = true)
      (hafter : ∀ c ∈ after, Text.isBlank c = true) :
      States (before ++ ((sign ++ ds) ++ after)) (value ds)

variable {cs ds : List Char} {n m : Nat} {w : UInt32}

/-- Reading from left to right gives every digit the weight of its place. -/
theorem ofDigitChars_eq_value (ds : List Char) : Nat.ofDigitChars 10 ds 0 = value ds := by
  induction ds with
  | nil => rfl
  | cons d ds ih =>
    rw [Nat.ofDigitChars_cons, Nat.ofDigitChars_eq_ofDigitChars_zero, ih, value, value,
      List.reverse_cons, List.map_append, Nat.ofDigits_append]
    simp [digit, Nat.add_comm]

theorem natural?_eq_some_iff :
    natural? ds = some n ↔ ds ≠ [] ∧ (∀ d ∈ ds, d.isDigit = true) ∧ value ds = n := by
  simp [natural?, ofDigitChars_eq_value, and_assoc]

theorem unsigned?_eq_some_iff :
    unsigned? cs = some n ↔ ∃ sign ds, cs = sign ++ ds ∧ (sign = [] ∨ sign = ['+']) ∧ ds ≠ [] ∧
      (∀ d ∈ ds, d.isDigit = true) ∧ value ds = n := by
  constructor
  · intro h
    unfold unsigned? at h
    split at h
    next ds => exact ⟨['+'], ds, rfl, .inr rfl, natural?_eq_some_iff.1 h⟩
    next => exact ⟨[], cs, rfl, .inl rfl, natural?_eq_some_iff.1 h⟩
  · rintro ⟨sign, ds, rfl, hsign, hne, hds, hvalue⟩
    have hread : natural? ds = some n := natural?_eq_some_iff.2 ⟨hne, hds, hvalue⟩
    rcases hsign with rfl | rfl
    · obtain ⟨d, ds, rfl⟩ := List.exists_cons_of_ne_nil hne
      have hplus : d ≠ '+' := ne_of_class (hds d List.mem_cons_self) (by decide)
      rw [List.nil_append, unsigned?]
      · exact hread
      · exact fun ds' heq ↦ hplus (List.cons.inj heq).1
    · exact hread

theorem isBlank_of_sign {sign : List Char} (h : sign = [] ∨ sign = ['+']) :
    ∀ c ∈ sign, Text.isBlank c = false := by
  rcases h with rfl | rfl
  · exact nofun
  · exact List.forall_mem_singleton.2 (by decide)

/-- The number in a trimmed text is the one that the text states. -/
theorem unsigned?_trimChars_eq_some_iff : unsigned? (Text.trimChars cs) = some n ↔ States cs n := by
  rw [unsigned?_eq_some_iff]
  constructor
  · rintro ⟨sign, ds, htrim, hsign, hne, hds, rfl⟩
    obtain ⟨before, after, hbefore, hafter, hcs⟩ := Text.exists_padding cs
    rw [hcs, htrim]
    exact .mk hbefore hsign hne hds hafter
  · rintro @⟨before, sign, ds, after, hbefore, hsign, hne, hds, hafter⟩
    have hblank : ∀ c ∈ sign ++ ds, Text.isBlank c = false := by
      intro c hc
      rcases List.mem_append.1 hc with hc | hc
      · exact isBlank_of_sign hsign c hc
      · exact Text.isBlank_of_isDigit (hds c hc)
    rw [Text.trimChars_padded hbefore hafter, Text.trimChars_eq_self hblank]
    exact ⟨sign, ds, rfl, hsign, hne, hds, rfl⟩

/-- A text states at most one number. -/
theorem States.unique (hn : States cs n) (hm : States cs m) : n = m :=
  Option.some.inj ((unsigned?_trimChars_eq_some_iff.2 hn).symm.trans
    (unsigned?_trimChars_eq_some_iff.2 hm))

/-! ### Numbers of 32 bits -/

/-- A number fits 32 bits if it is at most the greatest word. -/
theorem exists_toNat_eq_iff : (∃ w : UInt32, w.toNat = n) ↔ n ≤ 4294967295 := by
  constructor
  · rintro ⟨w, rfl⟩
    have hlt := w.toNat_lt_size
    simp only [UInt32.size] at hlt
    omega
  · intro h
    exact ⟨UInt32.ofNat n, UInt32.toNat_ofNat_of_lt' (by simp only [UInt32.size]; omega)⟩

theorem word?_trimChars_eq_some_iff :
    word? (Text.trimChars cs) = some w ↔ States cs w.toNat := by
  rw [word?, Option.bind_eq_some_iff]
  constructor
  · rintro ⟨n, hn, hfit⟩
    rw [← fitWord_eq_some_iff.1 hfit]
    exact unsigned?_trimChars_eq_some_iff.1 hn
  · intro h
    exact ⟨w.toNat, unsigned?_trimChars_eq_some_iff.2 h, fitWord_toNat w⟩

/-- No word is found in a text if every number that it states is too large for one. -/
theorem word?_trimChars_eq_none_iff :
    word? (Text.trimChars cs) = none ↔ ∀ n, States cs n → 4294967295 < n := by
  rw [Option.eq_none_iff_forall_ne_some]
  constructor
  · intro h n hn
    refine Nat.lt_of_not_le fun hle ↦ ?_
    obtain ⟨w, rfl⟩ := exists_toNat_eq_iff.2 hle
    exact h w (word?_trimChars_eq_some_iff.2 hn)
  · intro h w hw
    have hlt := h w.toNat (word?_trimChars_eq_some_iff.1 hw)
    have hle := exists_toNat_eq_iff.1 ⟨w, rfl⟩
    omega

end Fitout.Decimal
