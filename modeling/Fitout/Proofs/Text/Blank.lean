import Fitout.Text.Blank
import Mathlib.Data.List.TakeWhile

/-!
# Blanks around a text

Trimming takes away blanks only (`exists_padding`), so every other character is there as often as
before (`count_trimChars`). And blanks that are put around a text (`Pads`) make no difference to its
trim (`trimChars_padded`, `Pads.trim_eq`).
-/

namespace Fitout.Text

variable {cs before after : List Char}

theorem trimStart_eq_nil (h : ∀ c ∈ cs, isBlank c = true) : trimStart cs = [] :=
  List.dropWhile_eq_nil_iff.2 h

theorem trimEnd_append (h : ∀ c ∈ after, isBlank c = true) :
    trimEnd (cs ++ after) = trimEnd cs := by
  have hreverse : ∀ c ∈ after.reverse, isBlank c = true := fun c hc ↦ h c (List.mem_reverse.1 hc)
  rw [trimEnd, trimEnd, List.reverse_append, List.dropWhile_append_of_pos hreverse]

/-- Blanks around a text are trimmed with it. -/
theorem trimChars_padded (hbefore : ∀ c ∈ before, isBlank c = true)
    (hafter : ∀ c ∈ after, isBlank c = true) :
    trimChars (before ++ (cs ++ after)) = trimChars cs := by
  have hstart : trimStart (before ++ (cs ++ after)) = trimStart (cs ++ after) :=
    List.dropWhile_append_of_pos hbefore
  rw [trimChars, trimChars, hstart, trimStart, List.dropWhile_append]
  split
  next hempty =>
    -- There is nothing but blanks.
    rw [List.isEmpty_iff] at hempty
    rw [trimStart, hempty]
    exact congrArg trimEnd (trimStart_eq_nil hafter)
  next => exact trimEnd_append hafter

/-- A text is its trim with blanks around it. -/
theorem exists_padding (cs : List Char) :
    ∃ before after, (∀ c ∈ before, isBlank c = true) ∧ (∀ c ∈ after, isBlank c = true) ∧
      cs = before ++ (trimChars cs ++ after) := by
  refine ⟨cs.takeWhile isBlank, ((trimStart cs).reverse.takeWhile isBlank).reverse,
    fun c ↦ List.mem_takeWhile_imp, fun c hc ↦ List.mem_takeWhile_imp (List.mem_reverse.1 hc), ?_⟩
  have hend :
      trimChars cs ++ ((trimStart cs).reverse.takeWhile isBlank).reverse = trimStart cs := by
    rw [trimChars, trimEnd, ← List.reverse_append, List.takeWhile_append_dropWhile,
      List.reverse_reverse]
  rw [hend, trimStart, List.takeWhile_append_dropWhile]

/-! ### What trimming leaves -/

theorem count_trimChars {c : Char} (hc : isBlank c = false) :
    (trimChars cs).count c = cs.count c := by
  have hnone {bs : List Char} (h : ∀ d ∈ bs, isBlank d = true) : bs.count c = 0 :=
    List.count_eq_zero.2 fun hmem ↦ Bool.eq_false_iff.1 hc (h c hmem)
  obtain ⟨before, after, hbefore, hafter, hcs⟩ := exists_padding cs
  calc (trimChars cs).count c
      = before.count c + ((trimChars cs).count c + after.count c) := by
        rw [hnone hbefore, hnone hafter, Nat.zero_add, Nat.add_zero]
    _ = cs.count c := by rw [← List.count_append, ← List.count_append, ← hcs]

/-- A text is trimmed to nothing if it has nothing but blanks. -/
theorem trimChars_eq_nil_iff : trimChars cs = [] ↔ ∀ c ∈ cs, isBlank c = true := by
  constructor
  · intro h c hc
    by_contra hblank
    have hcount : (trimChars cs).count c = cs.count c :=
      count_trimChars (Bool.eq_false_iff.2 hblank)
    rw [h, List.count_nil] at hcount
    exact List.count_eq_zero.1 hcount.symm hc
  · intro h
    rw [trimChars, trimStart_eq_nil h]
    rfl

theorem trim_eq_empty_iff {s : String} : trim s = "" ↔ ∀ c ∈ s.toList, isBlank c = true := by
  rw [← trimChars_eq_nil_iff, ← String.toList_inj, toList_trim]
  rfl

/-! ### Blanks put around -/

/-- The texts that are a text with blanks put around it. -/
inductive Pads (s : String) : String → Prop
  | mk {before after : String} (hbefore : ∀ c ∈ before.toList, isBlank c = true)
      (hafter : ∀ c ∈ after.toList, isBlank c = true) : Pads s (before ++ s ++ after)

theorem Pads.trim_eq {s t : String} (h : Pads s t) : trim t = trim s := by
  obtain ⟨hbefore, hafter⟩ := h
  rw [← String.toList_inj, toList_trim, toList_trim, String.toList_append, String.toList_append,
    List.append_assoc, trimChars_padded hbefore hafter]

/-- A character that is no blank does not come with the blanks. -/
theorem Pads.not_mem {s t : String} (h : Pads s t) {c : Char} (hc : isBlank c = false)
    (hs : c ∉ s.toList) : c ∉ t.toList := by
  rw [← List.count_eq_zero, ← count_trimChars hc] at hs ⊢
  rwa [← toList_trim, h.trim_eq, toList_trim]

end Fitout.Text
