import Fitout.Proofs.Document.Told
import Fitout.Proofs.Text.Numeral
import Fitout.Proofs.Yaml.Plain
import Fitout.Yaml.Outline

/-!
# Written numbers

A number is written in decimal digits, which stand plain and spell that number: the first digit is
no zero that would announce a base or hide the number. An integer with a sign stands plain too, but
it is no number for a field, and neither is one that does not fit 32 bits.

Main statements: `isPlain_written`, `scalarNumber_toDigits`, `scalarNumber_written`.
-/

namespace Fitout.Yaml

/-! ### Digits as characters -/

/-- Digits are printable characters of ASCII. -/
theorem isPrintable_of_isDigit {c : Char} (hc : c.isDigit = true) :
    isPrintable c = true ∧ isAnyBreak c = false := by
  have hcode := toNat_of_isDigit hc
  constructor
  · simp only [isPrintable, Bool.or_eq_true, Bool.and_eq_true, decide_eq_true_eq]
    omega
  · simp only [isAnyBreak, isBreak, Bool.or_eq_false_iff, beq_eq_false_iff_ne]
    exact ⟨⟨⟨⟨ne_of_class hc (by decide), by omega⟩, by omega⟩, ne_of_class hc (by decide)⟩,
      by omega⟩

theorem holdsIndicator_of_isDigit {cs : List Char} (hcs : ∀ c ∈ cs, c.isDigit = true) :
    holdsIndicator cs = false := by
  induction cs with
  | nil => rfl
  | cons a cs ih =>
    cases cs with
    | nil => rfl
    | cons b cs =>
      have hb : b.isDigit = true := hcs b (by simp)
      rw [holdsIndicator, ih fun c hc ↦ hcs c (List.mem_cons_of_mem a hc)]
      simp [ne_of_class hb]

theorem startsAsIndicator_of_isDigit {c : Char} (cs : List Char) (hc : c.isDigit = true) :
    startsAsIndicator (c :: cs) = false := by
  have hne (d : Char) (hd : d.isDigit = false) : c ≠ d := ne_of_class hc hd
  have hdash : '-' ≠ c := (hne '-' (by decide)).symm
  have hdot : '.' ≠ c := (hne '.' (by decide)).symm
  simp [startsAsIndicator, isIndicator, List.isPrefixOf, hne, hdash, hdot]

/-- A written number stands plain. -/
theorem isPlain_toDigits (n : Nat) : IsPlain (Nat.toDigits 10 n) := by
  have hdigits (c : Char) (hc : c ∈ Nat.toDigits 10 n) : c.isDigit = true :=
    Decimal.isDigit_of_mem_toDigits hc
  refine ⟨fun c hc ↦ (isPrintable_of_isDigit (hdigits c hc)).1,
    fun c hc ↦ (isPrintable_of_isDigit (hdigits c hc)).2, ?_, ?_, ?_,
    holdsIndicator_of_isDigit hdigits⟩
  · intro h
    exact absurd (hdigits ' ' (List.mem_of_mem_head? h)) (by decide)
  · intro h
    exact absurd (hdigits ' ' (List.mem_of_getLast? h)) (by decide)
  · obtain ⟨d, ds, hcons, hd⟩ := Decimal.exists_toDigits_eq_cons n
    rw [hcons]
    exact startsAsIndicator_of_isDigit ds hd

/-- Digits stand plain with a sign in front. -/
theorem isPlain_dash_toDigits (n : Nat) : IsPlain ('-' :: Nat.toDigits 10 n) := by
  have hdigits := isPlain_toDigits n
  obtain ⟨d, ds, hcons, hd⟩ := Decimal.exists_toDigits_eq_cons n
  rw [hcons] at hdigits ⊢
  have hprint : isPrintable '-' = true := by decide
  have hbreak : isAnyBreak '-' = false := by decide
  have hcode := toNat_of_isDigit hd
  -- The sign is followed by a digit, so it is no hyphen in front of an entry.
  have hgap : atGap (d :: ds) = false := by
    have hzero : d.toNat ≠ 0 := by omega
    have hspace : d ≠ ' ' := ne_of_class hd (by decide)
    simp [atGap, hzero, isBlank_of_isPrintable (isPrintable_of_isDigit hd).1 hspace,
      (isPrintable_of_isDigit hd).2]
  refine ⟨?_, ?_, by simp, ?_, ?_, ?_⟩
  · simpa [hprint] using hdigits.printable
  · simpa [hbreak] using hdigits.unbroken
  · rw [List.getLast?_cons_cons]
    exact hdigits.last
  · have hdash : '-' ≠ d := (ne_of_class hd (by decide)).symm
    simp [startsAsIndicator, isIndicator, List.isPrefixOf, hdash, hgap]
  · have hcolon : d ≠ ':' := ne_of_class hd (by decide)
    have hcomment : d ≠ '#' := ne_of_class hd (by decide)
    rw [holdsIndicator, hdigits.holds]
    simp [hcolon, hcomment]

/-- A written integer stands plain. -/
theorem isPlain_written (n : Int) : IsPlain (Literal.integer n).written.toList := by
  rw [Literal.toList_written_integer]
  split
  · exact isPlain_dash_toDigits n.natAbs
  · exact isPlain_toDigits n.natAbs

/-! ### Digits as numbers -/

theorem digit?_of_isDigit {c : Char} (hc : c.isDigit = true) :
    digit? 10 c = some (c.toNat - '0'.toNat) := by
  have hcode := toNat_of_isDigit hc
  have hle : '0' ≤ c ∧ c ≤ '9' := by
    simpa [Char.le_def, UInt32.le_iff_toNat_le] using hcode
  have hlt : c.toNat - '0'.toNat < 10 := by
    show c.toNat - 48 < 10
    omega
  rw [digit?, if_pos hle]
  exact if_pos hlt

theorem digits?_of_isDigit {cs : List Char} (hne : cs ≠ [])
    (hcs : ∀ c ∈ cs, c.isDigit = true) : digits? 10 cs = some (Nat.ofDigitChars 10 cs 0) := by
  have hfold (n : Nat) : cs.foldlM (fun n c ↦ (digit? 10 c).map (n * 10 + ·)) n =
      some (Nat.ofDigitChars 10 cs n) := by
    clear hne
    induction cs generalizing n with
    | nil => rfl
    | cons c cs ih =>
      rw [List.foldlM_cons, digit?_of_isDigit (hcs c List.mem_cons_self)]
      show cs.foldlM _ (n * 10 + (c.toNat - '0'.toNat)) = _
      rw [ih fun d hd ↦ hcs d (List.mem_cons_of_mem c hd), Nat.ofDigitChars_cons, Nat.mul_comm]
  rw [digits?, if_neg (by simpa using hne), hfold]

/-- The digits of a number spell it. -/
theorem unsigned?_toDigits (n : Nat) : unsigned? (Nat.toDigits 10 n) = some n := by
  have hdigits (c : Char) (hc : c ∈ Nat.toDigits 10 n) : c.isDigit = true :=
    Decimal.isDigit_of_mem_toDigits hc
  have hnumber := digits?_of_isDigit Nat.toDigits_ne_nil hdigits
  rw [Nat.ofDigitChars_ten_toDigits] at hnumber
  have hzero := Decimal.toDigits_ne_zero_cons n
  obtain ⟨d, ds, hcons, hd⟩ := Decimal.exists_toDigits_eq_cons n
  rw [hcons] at hnumber hzero ⊢
  have hplus : d ≠ '+' := ne_of_class hd (by decide)
  have hminus : d ≠ '-' := ne_of_class hd (by decide)
  -- A zero comes first only in the number zero, which has no more digits.
  have hled : isZeroLed (d :: ds) = false := by
    cases ds with
    | nil => simp [isZeroLed, dropSign, hplus, hminus]
    | cons e es =>
      have hd : d ≠ '0' := by
        rintro rfl
        exact hzero e es rfl
      simp [isZeroLed, dropSign, hplus, hminus]
  -- Nor is there a base, which would be announced by a zero and a letter.
  have hbased : basedNumber? (d :: ds) = digits? 10 (d :: ds) := by
    cases ds with
    | nil => simp [basedNumber?]
    | cons e es =>
      have hd : d ≠ '0' := by
        rintro rfl
        exact hzero e es rfl
      simp [basedNumber?]
  rw [unsigned?, hled]
  simp [dropPlus, hplus, hbased, hnumber]

/-- A written 32-bit number is read as itself. -/
theorem scalarNumber_toDigits (w : UInt32) :
    scalarNumber none .plain (Nat.toDigits 10 w.toNat) = .ok w := by
  have hlt : w.toNat < Nat.pow 2 64 := Nat.lt_trans w.toNat_lt (by decide)
  simp [scalarNumber, spellsNumber, unsigned?_toDigits, hlt]

/-- A sign is no digit, and no plus sign either. -/
theorem unsigned?_dash (n : Nat) : unsigned? ('-' :: Nat.toDigits 10 n) = none := by
  have hzero := Decimal.toDigits_ne_zero_cons n
  have hled : isZeroLed ('-' :: Nat.toDigits 10 n) = false := by
    rw [isZeroLed, dropSign]
    split
    next h => exact absurd h (hzero _ _)
    next => rfl
  have hdash : digit? 10 '-' = none := by decide
  rw [unsigned?, hled]
  simp [dropPlus, basedNumber?, digits?, hdash]

/-- An integer that does not fit 32 bits is no number for a field. -/
theorem scalarNumber_written {n : Int} (h : (Literal.integer n).scalar? = none) :
    ∃ fault, scalarNumber none .plain (Literal.integer n).written.toList = .error fault := by
  have hspells : spellsNumber none .plain = true := rfl
  rw [Literal.toList_written_integer]
  by_cases hn : n < 0
  · refine ⟨scalarFault none ('-' :: Nat.toDigits 10 n.natAbs), ?_⟩
    rw [if_pos hn, List.singleton_append, scalarNumber, hspells, if_pos rfl, unsigned?_dash]
  · have hbig : UInt32.size ≤ n.natAbs := by
      have := Literal.scalar?_integer_eq_none_iff.1 h
      omega
    have hfit : Decimal.fitWord n.natAbs = none := if_neg (by omega)
    rw [if_neg hn, List.nil_append, scalarNumber, hspells, if_pos rfl, unsigned?_toDigits]
    simp only [hfit]
    split <;> exact ⟨_, rfl⟩

end Fitout.Yaml
