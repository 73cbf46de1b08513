import Fitout.Proofs.Text.Lowercase
import Fitout.Proofs.Yaml.DoubleQuoted
import Fitout.Proofs.Yaml.Number
import Fitout.Proofs.Yaml.SingleQuoted
import Fitout.Yaml.Page

/-!
# Written characters

Whatever text is written, only printable characters are put down: the others are escaped
(`isPrintable_writeScalar`). So a written document can be read as a whole, and unifying its line
breaks changes nothing (`Cursor.ofText_of_isPrintable`).
-/

namespace Fitout.Yaml

/-! ### Reading printable texts -/

/-- A character that is taken up as it is: it may stand in a text, and ends no line that does not
end with a line feed already. -/
structure IsKept (c : Char) : Prop where
  /-- The character may stand in a text. -/
  allowed : isAllowed c = true
  /-- It is no carriage return. -/
  ne_return : c ≠ '\r'
  /-- It is no next-line character. -/
  ne_nextLine : c.toNat ≠ 0x85

theorem isKept_of_isPrintable {c : Char} (h : isPrintable c = true) : IsKept c := by
  refine ⟨isAllowed_of_isPrintable h, ?_, ?_⟩
  · rintro rfl
    exact absurd h (by decide)
  · intro hcode
    simp [isPrintable, hcode] at h

theorem unifyBreaks_append {cs : List Char} (h : ∀ c ∈ cs, IsKept c) (rest : List Char) :
    unifyBreaks (cs ++ rest) = cs ++ unifyBreaks rest := by
  induction cs with
  | nil => rfl
  | cons c cs ih =>
    have hc := h c List.mem_cons_self
    have hrest := ih fun d hd ↦ h d (List.mem_cons_of_mem c hd)
    simp [unifyBreaks, hc.ne_return, hc.ne_nextLine, hrest]

/-- A text that may stand as it is is taken up with its line breaks unified. -/
theorem Cursor.ofText_of_isAllowed {cs : List Char} (h : ∀ c ∈ cs, isAllowed c = true) :
    Cursor.ofText cs = { rest := unifyBreaks cs } := by
  rw [ofText, List.all_eq_true.2 h]
  rfl

/-- A text of printable characters is taken up as it is. -/
theorem Cursor.ofText_of_isPrintable {cs : List Char} (h : ∀ c ∈ cs, isPrintable c = true) :
    Cursor.ofText cs = { rest := cs } := by
  have hkept (c : Char) (hc : c ∈ cs) : IsKept c := isKept_of_isPrintable (h c hc)
  have hunify := unifyBreaks_append hkept []
  rw [List.append_nil, unifyBreaks, List.append_nil] at hunify
  rw [ofText_of_isAllowed fun c hc ↦ (hkept c hc).allowed, hunify]

/-! ### Writing printable texts -/

theorem isPrintable_of_isAlpha {c : Char} (hc : c.isAlpha = true) : isPrintable c = true := by
  have hcode := Text.isAlpha_iff.1 hc
  simp only [isPrintable, Bool.or_eq_true, Bool.and_eq_true, beq_iff_eq, decide_eq_true_eq]
  omega

theorem isPrintable_toUpper_digitChar :
    ∀ n < 16, isPrintable (Nat.digitChar n).toUpper = true := by
  decide

theorem isPrintable_hexDigits (width n : Nat) : ∀ c ∈ hexDigits width n, isPrintable c = true := by
  have hdigits (n : Nat) : ∀ c ∈ (Nat.toDigits 16 n).map Char.toUpper, isPrintable c = true := by
    induction n using Nat.strongRecOn with
    | ind n ih =>
      rw [Nat.toDigits_eq_if (by decide)]
      split
      next hlt => simpa using isPrintable_toUpper_digitChar n hlt
      next =>
        intro c hc
        rw [List.map_append, List.mem_append] at hc
        rcases hc with hc | hc
        · exact ih (n / 16) (by omega) c hc
        · obtain rfl : c = (Nat.digitChar (n % 16)).toUpper := by simpa using hc
          exact isPrintable_toUpper_digitChar _ (Nat.mod_lt n (by decide))
  intro c hc
  rw [hexDigits, List.mem_append] at hc
  rcases hc with hc | hc
  · obtain rfl : c = '0' := List.eq_of_mem_replicate hc
    decide
  · exact hdigits n c hc

theorem isPrintable_escape (c : Char) : ∀ d ∈ escape c, isPrintable d = true := by
  have happend {letter : Char} (hletter : isPrintable letter = true) (width : Nat) :
      ∀ d ∈ ['\\', letter] ++ hexDigits width c.toNat, isPrintable d = true := by
    have hslash : isPrintable '\\' = true := by decide
    simpa [hslash, hletter] using isPrintable_hexDigits width c.toNat
  unfold escape
  split
  next h =>
    simp only [Bool.and_eq_true] at h
    simpa using h.1.1.1
  next =>
    split
    case h_15 =>
      split
      next => exact happend (by decide) 2
      split
      next => exact happend (by decide) 4
      next => exact happend (by decide) 8
    all_goals exact List.all_eq_true.1 (by decide)

theorem isPrintable_doubleForm (cs : List Char) : ∀ d ∈ doubleForm cs, isPrintable d = true := by
  have hquote : isPrintable '\x22' = true := by decide
  simpa [doubleForm, hquote, or_imp, forall_and] using fun d c _ hd ↦ isPrintable_escape c d hd

theorem isPrintable_singleBody {cs : List Char} (h : ∀ c ∈ cs, isPrintable c = true) :
    ∀ d ∈ singleBody cs, isPrintable d = true := by
  have hquote : isPrintable '\x27' = true := by decide
  have hspace : isPrintable ' ' = true := by decide
  induction cs with
  | nil => nofun
  | cons c cs ih =>
    have hc := h c List.mem_cons_self
    have hrest := ih fun d hd ↦ h d (List.mem_cons_of_mem c hd)
    rw [singleBody, List.foldr_cons, ← singleBody]
    split
    next => simpa [hquote] using hrest
    split
    next => simpa [hc, hspace] using hrest
    next => simpa [hc] using hrest

theorem isPrintable_literalLines {fresh : Bool} {cs : List Char}
    (h : ∀ c ∈ cs, isPrintable c = true) : ∀ d ∈ literalLines fresh cs, isPrintable d = true := by
  have hspace : isPrintable ' ' = true := by decide
  induction cs generalizing fresh with
  | nil => nofun
  | cons c cs ih =>
    have hc := h c List.mem_cons_self
    have hrest (fresh : Bool) : ∀ d ∈ literalLines fresh cs, isPrintable d = true :=
      ih fun d hd ↦ h d (List.mem_cons_of_mem c hd)
    rw [literalLines]
    split
    next => simpa [hc] using hrest true
    next => cases fresh <;> simpa [hc, hspace] using hrest false

theorem isPrintable_chompingSignOf (cs : List Char) :
    ∀ d ∈ chompingSignOf cs, isPrintable d = true := by
  unfold chompingSignOf
  split
  next => exact List.all_eq_true.1 (by decide)
  next => split <;> exact List.all_eq_true.1 (by decide)
  next =>
    split
    next => exact List.all_eq_true.1 (by decide)
    split <;> exact List.all_eq_true.1 (by decide)

theorem isPrintable_literalForm {cs : List Char} (h : ∀ c ∈ cs, isPrintable c = true) :
    ∀ d ∈ literalForm cs, isPrintable d = true := by
  intro d hd
  simp only [literalForm, List.mem_append, or_assoc] at hd
  rcases hd with hd | hd | hd | hd | hd
  · obtain rfl : d = '|' := List.mem_singleton.1 hd
    decide
  · split at hd
    · obtain rfl : d = '2' := List.mem_singleton.1 hd
      decide
    · exact absurd hd List.not_mem_nil
  · exact isPrintable_chompingSignOf cs d hd
  · obtain rfl : d = '\n' := List.mem_singleton.1 hd
    decide
  · exact isPrintable_literalLines h d hd

theorem isPrintable_writeText (cs : List Char) : ∀ d ∈ writeText cs, isPrintable d = true := by
  have hquote : isPrintable '\x27' = true := by decide
  have hprint (h : needsEscapes cs = false) : ∀ c ∈ cs, isPrintable c = true := by
    simp only [needsEscapes, Bool.or_eq_false_iff, Bool.not_eq_false', List.all_eq_true] at h
    exact h.2
  unfold writeText
  split
  next =>
    split
    next h =>
      simp only [allowsLiteral, Bool.not_eq_true', Bool.or_eq_false_iff] at h
      exact isPrintable_literalForm (hprint h.1)
    next => exact isPrintable_doubleForm cs
  split
  next h =>
    simp only [Bool.and_eq_true] at h
    exact (isPlain_of_allowsPlain h.2).printable
  split
  next h =>
    simp only [allowsSingle, Bool.not_eq_true', Bool.or_eq_false_iff] at h
    rw [singleForm_eq]
    simpa [hquote, or_imp, forall_and] using isPrintable_singleBody (hprint h.1)
  next => exact isPrintable_doubleForm cs

/-- A value is written in printable characters. -/
theorem isPrintable_writeScalar (v : Scalar) : ∀ d ∈ writeScalar v, isPrintable d = true := by
  cases v with
  | number w => exact (isPlain_toDigits w.toNat).printable
  | text s => exact isPrintable_writeText s.toList

end Fitout.Yaml
