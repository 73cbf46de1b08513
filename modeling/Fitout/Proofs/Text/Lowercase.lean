import Fitout.Text.Lowercase
import Mathlib.Data.List.Basic

/-!
# Lower case and words of ASCII

Some texts are compared in full lower case and some in the lower case of ASCII. Both comparisons
come to the same wherever the other side is a word of ASCII without the letter `k`
(`lowercaseAll_eq_iff`). For the lower case of a character outside ASCII has a character outside
ASCII in it, the Kelvin sign apart, whose lower case is `k` (`exists_mem_lowercase`).
-/

namespace Fitout.Text

/-! ### The letters of ASCII -/

theorem isUpper_iff {c : Char} : c.isUpper = true ↔ 65 ≤ c.toNat ∧ c.toNat ≤ 90 := by
  unfold Char.isUpper
  simp [UInt32.le_iff_toNat_le]

theorem isLower_iff {c : Char} : c.isLower = true ↔ 97 ≤ c.toNat ∧ c.toNat ≤ 122 := by
  unfold Char.isLower
  simp [UInt32.le_iff_toNat_le]

theorem isAlpha_iff {c : Char} : c.isAlpha = true ↔
    65 ≤ c.toNat ∧ c.toNat ≤ 90 ∨ 97 ≤ c.toNat ∧ c.toNat ≤ 122 := by
  unfold Char.isAlpha
  rw [Bool.or_eq_true, isUpper_iff, isLower_iff]

theorem toLower_eq_self {c : Char} (h : c.toNat < 65 ∨ 90 < c.toNat) : c.toLower = c := by
  refine dif_neg fun hcapital ↦ ?_
  have hcode : 65 ≤ c.toNat ∧ c.toNat ≤ 90 := by
    simpa [UInt32.le_iff_toNat_le] using hcapital
  omega

theorem toNat_toLower {c : Char} (h : 65 ≤ c.toNat ∧ c.toNat ≤ 90) :
    c.toLower.toNat = c.toNat + 32 := by
  have hcapital : c.val ≥ 'A'.val ∧ c.val ≤ 'Z'.val := by
    simpa [UInt32.le_iff_toNat_le] using h
  unfold Char.toLower
  rw [dif_pos hcapital]
  show (c.val + ('a'.val - 'A'.val)).toNat = c.toNat + 32
  rw [UInt32.toNat_add]
  show (c.toNat + 32) % _ = _
  omega

/-- What becomes a small letter is a letter. -/
theorem isAlpha_of_toLower {c : Char} (h : c.toLower.isLower = true) : c.isAlpha = true := by
  rw [isAlpha_iff]
  by_cases hcapital : 65 ≤ c.toNat ∧ c.toNat ≤ 90
  · exact .inl hcapital
  · rw [toLower_eq_self (by omega)] at h
    exact .inr (isLower_iff.1 h)

/-! ### Characters outside ASCII -/

/-- Whether the lower cases on a run are characters outside ASCII. -/
def CaseRun.staysOutside (r : CaseRun) : Bool :=
  0x80 ≤ r.first + r.offset && (r.last + r.offset < 0xD800 ||
    0xE000 ≤ r.first + r.offset && r.last + r.offset < 0x110000)

/-- Whether a run is the Kelvin sign alone, whose lower case is `k`. -/
def CaseRun.isKelvin (r : CaseRun) : Bool :=
  r.first == 0x212A && r.last == 0x212A && r.first + r.offset == 'k'.toNat

theorem isKelvin_or_staysOutside : ∀ r ∈ caseRuns, r.isKelvin = true ∨ r.staysOutside = true := by
  decide +kernel

/-- The lower case of a character on a run. -/
theorem CaseRun.outside_or_eq {r : CaseRun} (hr : r ∈ caseRuns) {n : Nat}
    (hn : r.covers n = true) :
    0x80 ≤ (Char.ofNat (n + r.offset).toNat).toNat ∨ Char.ofNat (n + r.offset).toNat = 'k' := by
  simp only [covers, Bool.and_eq_true, decide_eq_true_eq] at hn
  rcases isKelvin_or_staysOutside r hr with hkelvin | houtside
  · simp only [isKelvin, Bool.and_eq_true, beq_iff_eq] at hkelvin
    have hcode : (n + r.offset).toNat = 'k'.toNat := by omega
    exact .inr (by rw [hcode]; rfl)
  · simp only [staysOutside, Bool.and_eq_true, Bool.or_eq_true, decide_eq_true_eq] at houtside
    have hvalid : (n + r.offset).toNat.isValidChar := by
      rw [Nat.isValidChar]
      omega
    have hcode : (Char.ofNat (n + r.offset).toNat).toNat = (n + r.offset).toNat := by
      rw [Char.ofNat, dif_pos hvalid]
      rfl
    exact .inl (by omega)

/-- The lower case of a character outside ASCII has another one in it, or it is a `k`. -/
theorem exists_mem_lowercase {c : Char} (h : 0x80 ≤ c.toNat) :
    ∃ d ∈ lowercase c, 0x80 ≤ d.toNat ∨ d = 'k' := by
  rw [lowercase, if_neg (by omega)]
  by_cases hdotted : (c.toNat == 0x130) = true
  · rw [if_pos hdotted]
    exact ⟨Char.ofNat 0x307, List.mem_cons_of_mem _ List.mem_cons_self, .inl (by decide)⟩
  · rw [if_neg hdotted]
    split
    next r hrun =>
      have hcovers : r.covers c.toNat = true := by simpa using List.find?_some hrun
      exact ⟨_, List.mem_cons_self, r.outside_or_eq (List.mem_of_find?_eq_some hrun) hcovers⟩
    next => exact ⟨c, List.mem_cons_self, .inl h⟩

/-- The Kelvin sign is why words with a `k` are left out below. -/
example : lowercase (Char.ofNat 0x212A) = ['k'] := by
  rfl

/-! ### Words of ASCII -/

variable {cs word : List Char}

theorem lowercaseAll_eq_map (h : ∀ c ∈ cs, c.toNat < 0x80) :
    lowercaseAll cs = cs.map Char.toLower := by
  rw [lowercaseAll, List.map_eq_flatMap]
  exact List.flatMap_congr fun c hc ↦ if_pos (h c hc)

/-- A text comes to a word of ASCII without `k` in full lower case exactly if it does in the lower
case of ASCII. -/
theorem lowercaseAll_eq_iff (hword : ∀ d ∈ word, d.toNat < 0x80 ∧ d ≠ 'k') :
    lowercaseAll cs = word ↔ cs.map Char.toLower = word := by
  -- On either side the text has no characters but those of ASCII.
  constructor
  · intro h
    have hascii : ∀ c ∈ cs, c.toNat < 0x80 := by
      intro c hc
      refine Nat.lt_of_not_le fun hge ↦ ?_
      obtain ⟨d, hd, houtside⟩ := exists_mem_lowercase hge
      obtain ⟨hlt, hk⟩ := hword d (h ▸ List.mem_flatMap.2 ⟨c, hc, hd⟩)
      rcases houtside with houtside | hkelvin
      · omega
      · exact hk hkelvin
    rw [← lowercaseAll_eq_map hascii, h]
  · intro h
    have hascii : ∀ c ∈ cs, c.toNat < 0x80 := by
      intro c hc
      refine Nat.lt_of_not_le fun hge ↦ ?_
      have hlower : c.toLower ∈ word := h ▸ List.mem_map_of_mem hc
      rw [toLower_eq_self (by omega)] at hlower
      have hlt := (hword c hlower).1
      omega
    rw [lowercaseAll_eq_map hascii, h]

end Fitout.Text
