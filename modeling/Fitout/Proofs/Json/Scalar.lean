import Fitout.Json.Reader
import Fitout.Json.Writer
import Fitout.Proofs.Document.Told
import Fitout.Proofs.Json.Numeral

/-!
# JSON scalars

A string may be written in many ways (`SpellsText`), an integer in one. Whatever stands for a
literal (`SpellsLiteral`) is read from in front of any text that does not prolong it. A string
carries its own end, so anything may follow it (`SpellsText.readString`), and only what spells a
string is read as one (`exists_of_readString`). A number goes on as far as digits, a point or an
exponent do, so what follows it must start with none of these (`SpellsNumeral.readValue`); and an
integer is found to be no number for a field unless it fits 32 bits.

Main statement: `SpellsLiteral.readValue`. What is written for a scalar spells it
(`spellsLiteral_writeScalar`).
-/

namespace Fitout.Json

/-! ### Strings -/

/-- The characters between the quotes of a string, with the text that they spell. -/
inductive SpellsText : List Char → List Char → Prop
  | nil : SpellsText [] []
  /-- A character that stands for itself. -/
  | plain {c : Char} {cs s : List Char} (hquote : c ≠ '\x22') (hslash : c ≠ '\\')
      (hcontrol : 0x20 ≤ c.toNat) (hrest : SpellsText cs s) : SpellsText (c :: cs) (c :: s)
  /-- An escape of two characters. -/
  | short {c e : Char} {cs s : List Char} (he : shortEscape? e = some c)
      (hrest : SpellsText cs s) : SpellsText ('\\' :: e :: cs) (c :: s)
  /-- The escape of a code unit that is a character. -/
  | unit {a b c d : Char} {n : Nat} {cs s : List Char} (hn : unit? a b c d = some n)
      (hhigh : isHighSurrogate n = false) (hlow : isLowSurrogate n = false)
      (hrest : SpellsText cs s) :
      SpellsText ('\\' :: 'u' :: a :: b :: c :: d :: cs) (Char.ofNat n :: s)
  /-- The escapes of the two code units of a character. -/
  | pair {a b c d e f g h : Char} {high low : Nat} {cs s : List Char}
      (hhigh : unit? a b c d = some high) (hlow : unit? e f g h = some low)
      (hisHigh : isHighSurrogate high = true) (hisLow : isLowSurrogate low = true)
      (hrest : SpellsText cs s) :
      SpellsText ('\\' :: 'u' :: a :: b :: c :: d :: '\\' :: 'u' :: e :: f :: g :: h :: cs)
        (ofSurrogates high low :: s)

/-- A string is read from in front of any text. -/
theorem SpellsText.readString {cs s : List Char} (h : SpellsText cs s) (rest : List Char) :
    readString (cs ++ '\x22' :: rest) = some (s, rest) := by
  induction h with
  | nil => rfl
  | @plain c cs s hquote hslash hcontrol _ ih =>
    have hlt : ¬ c.toNat < 0x20 := by omega
    -- The clause for such a character comes last, so that none of those before may apply to it.
    rw [List.cons_append, Json.readString, ih]
    · simp [hlt, hslash]
    · exact hquote
    all_goals simp [hslash]
  | @short c e cs s he _ ih =>
    have hunit : e ≠ 'u' := by
      rintro rfl
      cases he
    rw [List.cons_append, List.cons_append, Json.readString, ih]
    · simp [he]
    · simp [hunit]
  | unit hn hhigh hlow _ ih => simp [Json.readString, ih, hn, hhigh, hlow]
  | pair hhigh hlow hisHigh hisLow _ ih =>
    simp [Json.readString, ih, hhigh, hlow, hisHigh, hisLow]

/-- What is read of a string is one. -/
theorem exists_of_readString {cs s rest : List Char} (h : readString cs = some (s, rest)) :
    ∃ ss, SpellsText ss s ∧ cs = ss ++ '\x22' :: rest := by
  fun_induction readString cs generalizing s rest with
  | case1 => cases h
  | case2 =>
    cases h
    exact ⟨[], .nil, rfl⟩
  | case3 a b c d tail ihPair ih =>
    simp only [Option.bind_eq_bind, Option.bind_eq_some_iff] at h
    obtain ⟨u, hu, h⟩ := h
    split at h
    next hhigh =>
      split at h
      next e f g k tail =>
        simp only [Option.bind_eq_some_iff] at h
        obtain ⟨v, hv, h⟩ := h
        split at h
        next hlow =>
          obtain ⟨⟨s, _⟩, hread, ⟨⟩⟩ := Option.bind_eq_some_iff.1 h
          obtain ⟨ss, hs, rfl⟩ := ihPair hread
          exact ⟨_, .pair hu hv hhigh hlow hs, rfl⟩
        next => cases h
      next => cases h
    next hhigh =>
      split at h
      next => cases h
      next hlow =>
        obtain ⟨⟨s, _⟩, hread, ⟨⟩⟩ := Option.bind_eq_some_iff.1 h
        obtain ⟨ss, hs, rfl⟩ := ih hread
        exact ⟨_, .unit hu (by simpa using hhigh) (by simpa using hlow) hs, rfl⟩
  | case4 e tail _ ih =>
    simp only [Option.bind_eq_bind, Option.bind_eq_some_iff] at h
    obtain ⟨c, hc, ⟨s, _⟩, hread, ⟨⟩⟩ := h
    obtain ⟨ss, hs, rfl⟩ := ih hread
    exact ⟨_, .short hc hs, rfl⟩
  | case5 => cases h
  | case6 c tail hquote _ _ hplain ih =>
    obtain ⟨⟨s, _⟩, hread, ⟨⟩⟩ := Option.bind_eq_some_iff.1 h
    obtain ⟨ss, hs, rfl⟩ := ih hread
    simp only [Bool.or_eq_true, decide_eq_true_eq, beq_iff_eq, not_or, Nat.not_lt] at hplain
    exact ⟨_, .plain hquote hplain.2 hplain.1 hs, rfl⟩

theorem hexDigit?_digitChar : ∀ n < 16, hexDigit? (Nat.digitChar n) = some n := by
  decide

/-- The code unit of an escaped control character. -/
theorem unit?_digitChar {n : Nat} (h : n < 0x20) :
    unit? '0' '0' (Nat.digitChar (n / 16)) (Nat.digitChar (n % 16)) = some n := by
  have hzero : hexDigit? '0' = some 0 := by decide
  rw [unit?, hzero, hexDigit?_digitChar _ (by omega), hexDigit?_digitChar _ (by omega)]
  simp
  omega

/-- A written character spells itself. -/
theorem SpellsText.escape_append (c : Char) {cs s : List Char} (hrest : SpellsText cs s) :
    SpellsText (escape c ++ cs) (c :: s) := by
  have hshort (e : Char) (he : shortEscape? e = some c) : SpellsText (['\\', e] ++ cs) (c :: s) :=
    short he hrest
  unfold escape
  split
  next h => exact hshort '\x22' (by simp [shortEscape?, eq_of_beq h])
  split
  next h => exact hshort '\\' (by simp [shortEscape?, eq_of_beq h])
  split
  next h => exact hshort 'b' (by simp [shortEscape?, eq_of_beq h])
  split
  next h => exact hshort 'f' (by simp [shortEscape?, eq_of_beq h])
  split
  next h => exact hshort 'n' (by simp [shortEscape?, eq_of_beq h])
  split
  next h => exact hshort 'r' (by simp [shortEscape?, eq_of_beq h])
  split
  next h => exact hshort 't' (by simp [shortEscape?, eq_of_beq h])
  split
  next h =>
    have hhigh : isHighSurrogate c.toNat = false := by
      simp only [isHighSurrogate, Bool.and_eq_false_iff, decide_eq_false_iff_not]
      omega
    have hlow : isLowSurrogate c.toNat = false := by
      simp only [isLowSurrogate, Bool.and_eq_false_iff, decide_eq_false_iff_not]
      omega
    have hunit := unit (unit?_digitChar h) hhigh hlow hrest
    rwa [Char.ofNat_toNat] at hunit
  next hquote hslash _ _ _ _ _ hplain =>
    exact plain (by simpa using hquote) (by simpa using hslash) (by omega) hrest

/-- A written string spells itself. -/
theorem spellsText_flatMap_escape (s : List Char) : SpellsText (s.flatMap escape) s := by
  induction s with
  | nil => exact .nil
  | cons c cs ih =>
    rw [List.flatMap_cons]
    exact ih.escape_append c

/-! ### Numbers -/

/-- An integer of any size as a numeral. -/
def Numeral.ofInt (n : Int) : Numeral :=
  ⟨decide (n < 0), Nat.toDigits 10 n.natAbs, none, none⟩

/-- A written integer spells its numeral. -/
theorem spellsNumeral_written (n : Int) :
    SpellsNumeral (Literal.integer n).written.toList (.ofInt n) := by
  have hdigits : IsDigits (Nat.toDigits 10 n.natAbs) :=
    ⟨Nat.toDigits_ne_nil, fun d hd ↦ Decimal.isDigit_of_mem_toDigits hd⟩
  have hled : wellLed (Nat.toDigits 10 n.natAbs) = true := by
    unfold wellLed
    split
    next h => exact absurd h (Decimal.toDigits_ne_zero_cons n.natAbs _ _)
    next => rfl
  have hspells : SpellsNumeral _ (.ofInt n) := .mk hdigits (wellLed_iff.1 hled) .absent .absent
  rw [Literal.toList_written_integer]
  simpa using hspells

theorem toNat_le_wordMax (w : UInt32) : w.toNat ≤ wordMax := by
  have hsize : UInt32.size ≤ wordMax := by decide
  exact Nat.le_trans (Nat.le_of_lt (UInt32.toNat_lt_size w)) hsize

/-- An integer that fits 32 bits is a value for a field. -/
theorem number?_ofInt_of_fits (w : UInt32) {n : Int} (hn : 0 ≤ n) (hw : n.natAbs = w.toNat) :
    (Numeral.ofInt n).number? = some (.unsigned w.toNat) := by
  refine Numeral.number?_eq_unsigned_iff.2
    ⟨⟨decide_eq_false (by omega), rfl, rfl⟩, ?_, toNat_le_wordMax w⟩
  show Nat.ofDigitChars 10 (Nat.toDigits 10 n.natAbs) 0 = _
  rw [Nat.ofDigitChars_ten_toDigits, hw]

/-- Only an integer that is not negative is found without sign, and then as itself. -/
theorem eq_of_number?_ofInt {n : Int} {k : Nat}
    (h : (Numeral.ofInt n).number? = some (.unsigned k)) : n = k := by
  obtain ⟨hplain, hk, -⟩ := Numeral.number?_eq_unsigned_iff.1 h
  have hn : ¬ n < 0 := of_decide_eq_false hplain.unsigned
  have hk : Nat.ofDigitChars 10 (Nat.toDigits 10 n.natAbs) 0 = k := hk
  rw [Nat.ofDigitChars_ten_toDigits] at hk
  omega

/-- An integer that does not fit 32 bits is no value for a field, whether it fits 64 bits or
not. -/
theorem node_ofInt_of_exceeds {n : Int} (h : n < 0 ∨ (UInt32.size : Int) ≤ n) {m : Number}
    (hm : (Numeral.ofInt n).number? = some m) : ∃ fault, m.node.number = .error fault := by
  cases m with
  | unsigned k =>
    obtain rfl := eq_of_number?_ofInt hm
    have hfit : Decimal.fitWord k = none := if_neg (by omega)
    exact ⟨.wrongValue, by simp [Number.node, hfit]⟩
  | negative | fractional => exact ⟨_, rfl⟩

/-! ### Values -/

/-- Blanks in front of something else are passed over. -/
theorem skipBlanks_append {blanks : List Char} (hblanks : ∀ c ∈ blanks, isBlank c = true)
    {c : Char} (hc : isBlank c = false) (cs : List Char) :
    skipBlanks (blanks ++ c :: cs) = c :: cs := by
  rw [skipBlanks, List.dropWhile_append_of_pos hblanks]
  exact Text.dropWhile_eq_self fun d r h ↦ (List.cons.inj h).1 ▸ hc

theorem isBlank_of_isDigit {d : Char} (hd : d.isDigit = true) : isBlank d = false := by
  simp [isBlank, ne_of_class hd]

/-- What stands for a literal in a document. -/
inductive SpellsLiteral : List Char → Literal → Prop
  /-- The digits of an integer, with a minus sign if it is negative. -/
  | integer (n : Int) : SpellsLiteral (Literal.integer n).written.toList (.integer n)
  /-- A string with its quotes. -/
  | text {cs s : List Char} (h : SpellsText cs s) :
      SpellsLiteral ('\x22' :: (cs ++ ['\x22'])) (.text (String.ofList s))

/-- A number starts with a minus sign or a digit. -/
theorem SpellsNumeral.exists_head {cs : List Char} {m : Numeral} (h : SpellsNumeral cs m) :
    ∃ c more, cs = c :: more ∧ (c = '-' ∨ c.isDigit = true) := by
  cases h with
  | @mk negative whole _ _ _ _ hwhole =>
    cases negative with
    | true => exact ⟨'-', _, rfl, .inl rfl⟩
    | false =>
      obtain ⟨d, ds, rfl⟩ := List.exists_cons_of_ne_nil hwhole.1
      exact ⟨d, _, rfl, .inr (hwhole.2 d List.mem_cons_self)⟩

/-- A number, with blanks in front, is found as what it is to a reader of integers. -/
theorem SpellsNumeral.readValue {cs : List Char} {m : Numeral} (h : SpellsNumeral cs m)
    {blanks rest : List Char} (hblanks : ∀ c ∈ blanks, isBlank c = true)
    (hrest : EndsNumber rest) :
    readValue (blanks ++ (cs ++ rest)) =
      match m.number? with
      | some k => .value k.node rest
      | none => .malformed := by
  have hread := h.readNumeral hrest
  obtain ⟨c, more, rfl, hc⟩ := h.exists_head
  have hblank : isBlank c = false := by
    rcases hc with rfl | hd
    · decide
    · exact isBlank_of_isDigit hd
  have hquote : c ≠ '\x22' := by
    rcases hc with rfl | hd
    · decide
    · exact ne_of_class hd (by decide)
  rw [List.cons_append] at hread ⊢
  rw [Json.readValue, skipBlanks_append hblanks hblank]
  simp only [hread, beq_false_of_ne hquote, Bool.false_eq_true, if_false]
  exact if_pos (by simpa using hc)

theorem readValue_string {cs s : List Char} (h : SpellsText cs s) {blanks : List Char}
    (rest : List Char) (hblanks : ∀ c ∈ blanks, isBlank c = true) :
    readValue (blanks ++ ('\x22' :: (cs ++ ['\x22']) ++ rest)) = .value (textNode s) rest := by
  have happend : '\x22' :: (cs ++ ['\x22']) ++ rest = '\x22' :: (cs ++ '\x22' :: rest) := by simp
  rw [happend, readValue, skipBlanks_append hblanks (by decide)]
  simp only [h.readString]
  rfl

/-- What stands for a literal, with blanks in front, is found as a value that tells it, or else is
no number at all. -/
theorem SpellsLiteral.readValue {cs : List Char} {literal : Literal} (h : SpellsLiteral cs literal)
    {blanks rest : List Char} (hblanks : ∀ c ∈ blanks, isBlank c = true)
    (hrest : EndsNumber rest) :
    (∃ n : Node, n.Tells literal ∧ readValue (blanks ++ (cs ++ rest)) = .value n rest) ∨
      literal.scalar? = none ∧ readValue (blanks ++ (cs ++ rest)) = .malformed := by
  cases h with
  | integer n =>
    rw [(spellsNumeral_written n).readValue hblanks hrest]
    rcases hscalar : (Literal.integer n).scalar? with - | v
    · have hexceeds := Literal.scalar?_integer_eq_none_iff.1 hscalar
      rcases hnumber : (Numeral.ofInt n).number? with - | m
      · exact .inr ⟨rfl, rfl⟩
      · refine .inl ⟨m.node, ?_, rfl⟩
        rw [Node.Tells, hscalar]
        exact node_ofInt_of_exceeds hexceeds hnumber
    · obtain ⟨hn, w, rfl, hw⟩ := Literal.scalar?_integer_eq_some hscalar
      rw [number?_ofInt_of_fits w hn hw]
      refine .inl ⟨_, ?_, rfl⟩
      rw [Node.Tells, hscalar]
      exact ⟨by simp [Number.node], rfl⟩
  | text hs =>
    exact .inl ⟨_, ⟨rfl, rfl⟩, readValue_string hs rest hblanks⟩

/-- What is written for a scalar spells it. -/
theorem spellsLiteral_writeScalar (v : Scalar) : SpellsLiteral (writeScalar v) v.literal := by
  cases v with
  | number w =>
    have hwritten : writeScalar (.number w) = (Literal.integer w.toNat).written.toList := by
      rw [Literal.toList_written_integer, if_neg (by omega)]
      rfl
    rw [hwritten]
    exact .integer w.toNat
  | text s =>
    have hspells := SpellsLiteral.text (spellsText_flatMap_escape s.toList)
    rw [String.ofList_toList] at hspells
    simpa [writeScalar, writeString, Scalar.literal] using hspells

end Fitout.Json
