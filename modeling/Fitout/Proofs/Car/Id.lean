import Fitout.Proofs.Car.Values
import Fitout.Proofs.Text.Decimal

/-!
# Texts of identifiers

A text is read as an identifier if it states a number that an identifier can have. Otherwise it is
refused: as zero if this is the number that it states, and as no number at all if it states none or
one that does not fit 32 bits, however long it is. Main statement: `CarId.parse_of_states`.
-/

namespace Fitout

namespace CarId

variable {s : String} {w : UInt32} {id : CarId}

theorem ofWord_eq_ok_iff : ofWord w = .ok id ↔ w = id.value := by
  constructor
  · intro h
    rw [ofWord] at h
    split at h
    · cases h
      rfl
    · cases h
  · rintro rfl
    exact ofWord_value id

theorem ofWord_eq_error_iff {r : Rejection} :
    ofWord w = .error r ↔ w = 0 ∧ r = ⟨Field.id.name, .belowMinimum 0⟩ := by
  have hzero : w = 0 ↔ ¬1 ≤ w := by
    rw [← UInt32.toNat_inj, UInt32.le_iff_toNat_le]
    show w.toNat = 0 ↔ ¬1 ≤ w.toNat
    omega
  rw [ofWord]
  split
  next hle => simp [hzero, hle]
  next hlt =>
    obtain rfl := hzero.2 hlt
    simp [eq_comm]

/-- What is judged is the word that a text states. Without one the text is refused. -/
theorem parse_cases (s : String) :
    (∃ w : UInt32, Decimal.States s.toList w.toNat ∧ parse s = ofWord w) ∨
      (∀ n, Decimal.States s.toList n → 4294967295 < n) ∧
        parse s = .error ⟨Field.id.name, .notPositive s⟩ := by
  rw [parse]
  rcases hword : Decimal.word? (Text.trimChars s.toList) with - | w
  · exact .inr ⟨Decimal.word?_trimChars_eq_none_iff.1 hword, rfl⟩
  · exact .inl ⟨w, Decimal.word?_trimChars_eq_some_iff.1 hword, rfl⟩

theorem parse_eq_ok_iff : parse s = .ok id ↔ Decimal.States s.toList id.value.toNat := by
  rcases parse_cases s with ⟨w, hw, hparse⟩ | ⟨hexceeds, hparse⟩
  · rw [hparse, ofWord_eq_ok_iff]
    constructor
    · rintro rfl
      exact hw
    · intro h
      exact UInt32.toNat_inj.1 (hw.unique h)
  · rw [hparse]
    constructor
    · exact nofun
    · intro h
      have hlt := hexceeds _ h
      have hle := Decimal.exists_toNat_eq_iff.1 ⟨id.value, rfl⟩
      omega

/-- Zero is refused as too small. -/
theorem parse_eq_belowMinimum_iff :
    parse s = .error ⟨Field.id.name, .belowMinimum 0⟩ ↔ Decimal.States s.toList 0 := by
  rcases parse_cases s with ⟨w, hw, hparse⟩ | ⟨hexceeds, hparse⟩
  · rw [hparse, ofWord_eq_error_iff]
    constructor
    · rintro ⟨rfl, -⟩
      exact hw
    · intro h
      exact ⟨UInt32.toNat_inj.1 (hw.unique h), rfl⟩
  · rw [hparse]
    constructor
    · exact nofun
    · exact fun h ↦ absurd (hexceeds 0 h) (Nat.not_lt_zero _)

/-- A number of more than 32 bits is refused like a text that states none. -/
theorem parse_eq_notPositive_iff : parse s = .error ⟨Field.id.name, .notPositive s⟩ ↔
    ∀ n, Decimal.States s.toList n → 4294967295 < n := by
  rcases parse_cases s with ⟨w, hw, hparse⟩ | ⟨hexceeds, hparse⟩
  · rw [hparse, ofWord_eq_error_iff]
    constructor
    · rintro ⟨-, h⟩
      cases h
    · intro h
      have hlt := h _ hw
      have hle := Decimal.exists_toNat_eq_iff.1 ⟨w, rfl⟩
      omega
  · exact ⟨fun _ ↦ hexceeds, fun _ ↦ hparse⟩

/-- A text is read as the number that it states: as an identifier if the number is positive and fits
32 bits, as one that is too small if it is zero, and as none otherwise. An identifier is read back
from its own text. -/
theorem parse_of_states (s : String) :
    (∀ n, (∃ id, parse s = .ok id ∧ id.value.toNat = n) ↔
      Decimal.States s.toList n ∧ 1 ≤ n ∧ n ≤ 4294967295) ∧
    (parse s = .error ⟨Field.id.name, .belowMinimum 0⟩ ↔ Decimal.States s.toList 0) ∧
    (parse s = .error ⟨Field.id.name, .notPositive s⟩ ↔
      ∀ n, Decimal.States s.toList n → 4294967295 < n) ∧
    ∀ id : CarId, parse (toString id) = .ok id := by
  refine ⟨fun n ↦ ⟨?_, ?_⟩, parse_eq_belowMinimum_iff, parse_eq_notPositive_iff, parse_toString⟩
  · rintro ⟨id, hid, rfl⟩
    exact ⟨parse_eq_ok_iff.1 hid, UInt32.le_iff_toNat_le.1 id.positive,
      Decimal.exists_toNat_eq_iff.1 ⟨id.value, rfl⟩⟩
  · rintro ⟨hstates, hpos, hle⟩
    obtain ⟨w, rfl⟩ := Decimal.exists_toNat_eq_iff.2 hle
    exact ⟨⟨w, UInt32.le_iff_toNat_le.2 hpos⟩, parse_eq_ok_iff.2 hstates, rfl⟩

end CarId

end Fitout
