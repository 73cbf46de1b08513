import Fitout.Json.Number
import Fitout.Proofs.Text.Numeral
import Mathlib.Data.List.TakeWhile

/-!
# JSON numbers

A number is spelled by its sign, its integer part, its fraction and its exponent
(`SpellsNumeral`). The reader takes what spells a number, up to where it ends
(`SpellsNumeral.readNumeral`, `exists_of_readNumeral`). What it is to a reader of integers is
settled by its parts: it is an integer without sign if it is written as one and fits 64 bits
(`Numeral.number?_eq_unsigned_iff`).
-/

namespace Fitout.Json

/-! ### Spellings -/

/-- A run of digits, at least one. -/
def IsDigits (ds : List Char) : Prop :=
  ds ≠ [] ∧ ∀ d ∈ ds, d.isDigit = true

/-- A fraction, if there is one. -/
inductive SpellsFraction : List Char → Option (List Char) → Prop
  | absent : SpellsFraction [] none
  | present {ds : List Char} (hds : IsDigits ds) : SpellsFraction ('.' :: ds) (some ds)

/-- The sign of an exponent, which may be left out, with whether it is a minus sign. -/
inductive SpellsSign : List Char → Bool → Prop
  | absent : SpellsSign [] false
  | plus : SpellsSign ['+'] false
  | minus : SpellsSign ['-'] true

/-- An exponent, if there is one. -/
inductive SpellsExponent : List Char → Option (Bool × List Char) → Prop
  | absent : SpellsExponent [] none
  | present {e : Char} {sign ds : List Char} {negative : Bool} (he : e = 'e' ∨ e = 'E')
      (hsign : SpellsSign sign negative) (hds : IsDigits ds) :
      SpellsExponent (e :: (sign ++ ds)) (some (negative, ds))

/-- A number with its parts. The integer part is a zero or does not start with one. -/
inductive SpellsNumeral : List Char → Numeral → Prop
  | mk {negative : Bool} {whole fraction exponent : List Char} {f : Option (List Char)}
      {e : Option (Bool × List Char)} (hwhole : IsDigits whole)
      (hled : whole = ['0'] ∨ whole.head? ≠ some '0') (hf : SpellsFraction fraction f)
      (he : SpellsExponent exponent e) :
      SpellsNumeral ((if negative then ['-'] else []) ++ (whole ++ (fraction ++ exponent)))
        ⟨negative, whole, f, e⟩

/-! ### Reading numbers -/

/-- What may follow a number: nothing that would prolong it. -/
def EndsNumber (rest : List Char) : Prop :=
  ∀ c ∈ rest.head?, c.isDigit = false ∧ c ≠ '.' ∧ c ≠ 'e' ∧ c ≠ 'E'

theorem readDigits_append {ds rest : List Char} (hds : ∀ d ∈ ds, d.isDigit = true)
    (hne : ds ≠ []) (hrest : ∀ c ∈ rest.head?, c.isDigit = false) :
    readDigits (ds ++ rest) = some (ds, rest) := by
  have htake : rest.takeWhile Char.isDigit = [] := by
    cases rest with
    | nil => rfl
    | cons c cs => simp [hrest c rfl]
  have hdrop : rest.dropWhile Char.isDigit = rest :=
    Text.dropWhile_eq_self fun c r h ↦ hrest c (by simp [h])
  rw [readDigits, List.takeWhile_append_of_pos hds, List.dropWhile_append_of_pos hds, htake,
    hdrop, List.append_nil]
  simp [hne]

theorem wellLed_iff {ds : List Char} : wellLed ds = true ↔ ds = ['0'] ∨ ds.head? ≠ some '0' := by
  rcases ds with - | ⟨d, - | ⟨e, ds⟩⟩
  · simp [wellLed]
  · simp [wellLed, em]
  · by_cases hd : d = '0'
    · simp [wellLed, hd]
    · simp [wellLed, hd]

section Reading

variable {cs ds rest : List Char}

theorem eq_of_readDigits (h : readDigits cs = some (ds, rest)) : IsDigits ds ∧ cs = ds ++ rest := by
  rw [readDigits] at h
  simp only [Option.ite_none_left_eq_some, Option.some.injEq, Prod.mk.injEq] at h
  obtain ⟨hne, rfl, rfl⟩ := h
  exact ⟨⟨by simpa using hne, fun d hd ↦ List.mem_takeWhile_imp hd⟩,
    (List.takeWhile_append_dropWhile).symm⟩

theorem exists_of_readFraction {f : Option (List Char)}
    (h : readFraction cs = some (f, rest)) : ∃ fs, SpellsFraction fs f ∧ cs = fs ++ rest := by
  unfold readFraction at h
  split at h
  next cs =>
    obtain ⟨⟨ds, _⟩, hread, ⟨⟩⟩ := Option.map_eq_some_iff.1 h
    obtain ⟨hds, rfl⟩ := eq_of_readDigits hread
    exact ⟨_, .present hds, rfl⟩
  next =>
    cases h
    exact ⟨[], .absent, rfl⟩

theorem exists_of_readExponent {e : Option (Bool × List Char)}
    (h : readExponent cs = some (e, rest)) : ∃ es, SpellsExponent es e ∧ cs = es ++ rest := by
  unfold readExponent at h
  split at h
  next c cs =>
    split at h
    next hc =>
      have hc : c = 'e' ∨ c = 'E' := by simpa using hc
      split at h <;> obtain ⟨⟨ds, _⟩, hread, ⟨⟩⟩ := Option.map_eq_some_iff.1 h <;>
        obtain ⟨hds, rfl⟩ := eq_of_readDigits hread
      · exact ⟨_, .present hc .minus hds, rfl⟩
      · exact ⟨_, .present hc .plus hds, rfl⟩
      · exact ⟨_, .present hc .absent hds, rfl⟩
    next =>
      cases h
      exact ⟨[], .absent, rfl⟩
  next =>
    cases h
    exact ⟨[], .absent, rfl⟩

theorem exists_of_readUnsigned {negative : Bool} {m : Numeral}
    (h : readUnsigned negative cs = some (m, rest)) :
    ∃ ns, SpellsNumeral ((if negative then ['-'] else []) ++ ns) m ∧ cs = ns ++ rest := by
  simp only [readUnsigned, Option.bind_eq_bind, Option.bind_eq_some_iff] at h
  obtain ⟨⟨whole, cs⟩, hwhole, h⟩ := h
  simp only [Option.ite_none_right_eq_some, Option.bind_eq_some_iff] at h
  obtain ⟨hled, ⟨f, cs⟩, hf, ⟨e, cs⟩, he, ⟨⟩⟩ := h
  obtain ⟨hdigits, rfl⟩ := eq_of_readDigits hwhole
  obtain ⟨fs, hfs, rfl⟩ := exists_of_readFraction hf
  obtain ⟨es, hes, rfl⟩ := exists_of_readExponent he
  exact ⟨_, .mk hdigits (wellLed_iff.1 hled) hfs hes, by simp⟩

theorem exists_of_readNumeral {m : Numeral} (h : readNumeral cs = some (m, rest)) :
    ∃ ns, SpellsNumeral ns m ∧ cs = ns ++ rest := by
  unfold readNumeral at h
  split at h <;> obtain ⟨ns, hns, rfl⟩ := exists_of_readUnsigned h
  · exact ⟨_, hns, rfl⟩
  · exact ⟨_, hns, rfl⟩

/-- A run of digits starts with a digit. -/
theorem IsDigits.append_ne_cons {c : Char} {more : List Char} (h : IsDigits ds)
    (hc : c.isDigit = false) : ds ++ rest ≠ c :: more := by
  intro heq
  obtain ⟨d, ds, rfl⟩ := List.exists_cons_of_ne_nil h.1
  exact ne_of_class (h.2 d List.mem_cons_self) hc (List.cons.inj heq).1

theorem SpellsFraction.readFraction {fs : List Char} {f : Option (List Char)}
    (h : SpellsFraction fs f) (hrest : ∀ c ∈ rest.head?, c.isDigit = false ∧ c ≠ '.') :
    readFraction (fs ++ rest) = some (f, rest) := by
  cases h with
  | absent =>
    rw [List.nil_append, Json.readFraction]
    rintro cs rfl
    exact (hrest '.' rfl).2 rfl
  | present hds =>
    rw [List.cons_append, Json.readFraction,
      readDigits_append hds.2 hds.1 fun c hc ↦ (hrest c hc).1]
    rfl

theorem SpellsExponent.readExponent {es : List Char} {e : Option (Bool × List Char)}
    (h : SpellsExponent es e) (hrest : EndsNumber rest) :
    readExponent (es ++ rest) = some (e, rest) := by
  cases h with
  | absent =>
    cases rest with
    | nil => rfl
    | cons c cs => simp [Json.readExponent, (hrest c rfl).2.2.1, (hrest c rfl).2.2.2]
  | @present e sign ds negative he hsign hds =>
    have hread : readDigits (ds ++ rest) = some (ds, rest) :=
      readDigits_append hds.2 hds.1 fun c hc ↦ (hrest c hc).1
    have he : (e == 'e' || e == 'E') = true := by simpa using he
    rw [List.cons_append, List.append_assoc]
    cases hsign with
    | absent =>
      rw [List.nil_append, Json.readExponent, if_pos he, hread]
      · rfl
      · exact fun _ ↦ hds.append_ne_cons (by decide)
      · exact fun _ ↦ hds.append_ne_cons (by decide)
    | plus | minus =>
      rw [List.cons_append, List.nil_append, Json.readExponent, if_pos he, hread]
      rfl

theorem SpellsNumeral.readNumeral {ns : List Char} {m : Numeral} (h : SpellsNumeral ns m)
    (hrest : EndsNumber rest) : readNumeral (ns ++ rest) = some (m, rest) := by
  cases h with
  | @mk negative whole fraction exponent f e hwhole hled hf he =>
    have hexponent := he.readExponent hrest
    have hends : ∀ c ∈ (exponent ++ rest).head?, c.isDigit = false ∧ c ≠ '.' := by
      cases he with
      | absent => exact fun c hc ↦ ⟨(hrest c hc).1, (hrest c hc).2.1⟩
      | present he =>
        rintro c ⟨⟩
        rcases he with rfl | rfl <;> decide
    have hfraction := hf.readFraction hends
    have hends : ∀ c ∈ (fraction ++ (exponent ++ rest)).head?, c.isDigit = false := by
      cases hf with
      | absent => exact fun c hc ↦ (hends c hc).1
      | present =>
        rintro c ⟨⟩
        decide
    have hunsigned : readUnsigned negative (whole ++ (fraction ++ (exponent ++ rest))) =
        some (⟨negative, whole, f, e⟩, rest) := by
      rw [readUnsigned, readDigits_append hwhole.2 hwhole.1 hends]
      simp [wellLed_iff.2 hled, hfraction, hexponent]
    cases negative with
    | true => simpa [Json.readNumeral] using hunsigned
    | false =>
      rw [if_neg Bool.false_ne_true, List.nil_append, List.append_assoc, List.append_assoc,
        Json.readNumeral]
      · exact hunsigned
      · exact fun _ ↦ hwhole.append_ne_cons (by decide)

end Reading


/-! ### Integers -/

/-- Digits are taken up completely if the number that they stand for fits 64 bits. -/
theorem takeDigits_eq_iff {ds : List Char} {n k : Nat} (hn : n ≤ wordMax) :
    takeDigits n ds = (k, []) ↔ Nat.ofDigitChars 10 ds n = k ∧ k ≤ wordMax := by
  induction ds generalizing n with
  | nil =>
    rw [takeDigits, Nat.ofDigitChars_nil, Prod.mk.injEq]
    exact ⟨fun h ↦ ⟨h.1, h.1 ▸ hn⟩, fun h ↦ ⟨h.1, rfl⟩⟩
  | cons d ds ih =>
    rw [takeDigits, Nat.ofDigitChars_cons, Nat.mul_comm 10 n]
    split
    next hfits => exact ih hfits
    next hexceeds =>
      have hle := Decimal.le_ofDigitChars ds (n * 10 + (d.toNat - '0'.toNat))
      constructor
      · intro h
        cases h
      · rintro ⟨rfl, hk⟩
        exact absurd (Nat.le_trans hle hk) hexceeds

namespace Numeral

variable {m : Numeral} {k : Nat}

/-- A number that is written without a sign, a fraction and an exponent. -/
structure IsPlain (m : Numeral) : Prop where
  /-- There is no sign. -/
  unsigned : m.negative = false
  /-- There is no fraction. -/
  whole : m.fraction = none
  /-- There is no exponent. -/
  unscaled : m.exponent = none

/-- A number is an integer without sign if it is written as one and fits 64 bits. -/
theorem number?_eq_unsigned_iff :
    m.number? = some (.unsigned k) ↔
      m.IsPlain ∧ Nat.ofDigitChars 10 m.whole 0 = k ∧ k ≤ wordMax := by
  rw [← takeDigits_eq_iff (Nat.zero_le _)]
  constructor
  · intro h
    rcases htake : takeDigits 0 m.whole with ⟨whole, left⟩
    simp only [number?, htake] at h
    split at h
    next hinteger =>
      simp only [Bool.and_eq_true, Option.isNone_iff_eq_none, List.isEmpty_iff] at hinteger
      obtain ⟨⟨hfraction, hexponent⟩, rfl⟩ := hinteger
      split at h
      next => split at h <;> cases h
      next hsign =>
        cases h
        exact ⟨⟨by simpa using hsign, hfraction, hexponent⟩, rfl⟩
    next =>
      split_ifs at h
      cases h
  · rintro ⟨⟨hsign, hfraction, hexponent⟩, htake⟩
    simp [number?, htake, hsign, hfraction, hexponent]

end Numeral

end Fitout.Json
