/-!
# Blank characters and trimming

The characters with the Unicode property White_Space, and the removal of a run of them from
either end of a text. Trimming works on lists of characters; `trim` is the same on strings.

Main statement: `trim_trim`, a trimmed text is its own trim.
-/

namespace Fitout.Text

/-- The characters with the Unicode property White_Space. -/
def isBlank (c : Char) : Bool :=
  let n := c.toNat
  (0x9 ≤ n && n ≤ 0xD) || n == 0x20 || n == 0x85 || n == 0xA0 || n == 0x1680 ||
    (0x2000 ≤ n && n ≤ 0x200A) || n == 0x2028 || n == 0x2029 || n == 0x202F || n == 0x205F ||
    n == 0x3000

/-- The general category Cc: the two blocks of control codes. -/
def isControl (c : Char) : Bool :=
  c.toNat ≤ 0x1F || (0x7F ≤ c.toNat && c.toNat ≤ 0x9F)

/-- Drops the blanks at the start. -/
def trimStart (cs : List Char) : List Char :=
  cs.dropWhile isBlank

/-- Drops the blanks at the end. -/
def trimEnd (cs : List Char) : List Char :=
  (cs.reverse.dropWhile isBlank).reverse

/-- Drops the blanks at both ends. -/
def trimChars (cs : List Char) : List Char :=
  trimEnd (trimStart cs)

/-- A text without the blanks at its two ends. -/
def trim (s : String) : String :=
  String.ofList (trimChars s.toList)

@[simp]
theorem toList_trim (s : String) : (trim s).toList = trimChars s.toList := by
  simp [trim]

/-! ### Trimming twice -/

theorem dropWhile_eq_self {p : Char → Bool} {cs : List Char}
    (h : ∀ c r, cs = c :: r → p c = false) : cs.dropWhile p = cs := by
  cases cs with
  | nil => rfl
  | cons c r => simp [h c r rfl]

theorem head_dropWhile {α : Type} {p : α → Bool} {cs r : List α} {c : α}
    (h : cs.dropWhile p = c :: r) : p c = false := by
  induction cs with
  | nil => simp at h
  | cons d ds ih =>
    by_cases hd : p d = true
    · exact ih (by simpa [hd] using h)
    · simp only [List.dropWhile_cons, hd, Bool.false_eq_true, if_false, List.cons.injEq] at h
      simpa [h.1] using hd

@[simp]
theorem trimEnd_trimEnd (cs : List Char) : trimEnd (trimEnd cs) = trimEnd cs := by
  unfold trimEnd
  rw [List.reverse_reverse, dropWhile_eq_self]
  exact fun c r h ↦ head_dropWhile h

/-- Dropping blanks at the end keeps what stands at the start. -/
theorem exists_trimEnd_append (cs : List Char) : ∃ t, cs = trimEnd cs ++ t := by
  refine ⟨(cs.reverse.takeWhile isBlank).reverse, ?_⟩
  rw [trimEnd, ← List.reverse_append, List.takeWhile_append_dropWhile, List.reverse_reverse]

@[simp]
theorem trimStart_trimEnd_trimStart (cs : List Char) :
    trimStart (trimEnd (trimStart cs)) = trimEnd (trimStart cs) := by
  refine dropWhile_eq_self fun c r h ↦ ?_
  obtain ⟨t, ht⟩ := exists_trimEnd_append (trimStart cs)
  rw [h] at ht
  exact head_dropWhile ht

@[simp]
theorem trimChars_trimChars (cs : List Char) : trimChars (trimChars cs) = trimChars cs := by
  simp [trimChars]

/-- A trimmed text is its own trim. -/
@[simp]
theorem trim_trim (s : String) : trim (trim s) = trim s := by
  simp [trim]

end Fitout.Text
