import Fitout.Proofs.Json.Scalar
import Mathlib.Data.List.TakeWhile

/-!
# JSON records

An object is written as its members between braces, with blanks between all parts (`Spells`). It is
read from left to right, one member after the other, up to the first integer that does not fit
32 bits (`outline_of_spells`).

The two layouts in which records are written, on one line and one field to a line, differ only in
the blanks between the parts: `feed` before and after the fields, `lead` in front of a key and `gap`
after a colon. So one induction over the fields shows that both spell their fields
(`spellsMembers_lines`), and what is read of them shows these.

Main statements: `outline_of_spells`, `outline_writePretty`, `outline_writeCompact`.
-/

namespace Fitout.Json

/-! ### Objects -/

/-- A member of an object: a key and a literal, with blanks around the parts. -/
inductive SpellsMember : List Char → String × Literal → Prop
  | mk {lead key gap gap' cs tail name : List Char} {literal : Literal}
      (hlead : ∀ c ∈ lead, isBlank c = true) (hkey : SpellsText key name)
      (hgap : ∀ c ∈ gap, isBlank c = true) (hgap' : ∀ c ∈ gap', isBlank c = true)
      (hliteral : SpellsLiteral cs literal) (htail : ∀ c ∈ tail, isBlank c = true) :
      SpellsMember (lead ++ '\x22' :: (key ++ '\x22' :: (gap ++ ':' :: (gap' ++ (cs ++ tail)))))
        (String.ofList name, literal)

/-- The members of an object, at least one. -/
inductive SpellsMembers : List Char → List (String × Literal) → Prop
  | one {cs : List Char} {field : String × Literal} (h : SpellsMember cs field) :
      SpellsMembers cs [field]
  | cons {cs more : List Char} {field : String × Literal} {fields : List (String × Literal)}
      (h : SpellsMember cs field) (hmore : SpellsMembers more fields) :
      SpellsMembers (cs ++ ',' :: more) (field :: fields)

/-- A document that is an object with some members, at least one. -/
def Spells (s : String) (fields : List (String × Literal)) : Prop :=
  ∃ lead cs tail : List Char, (∀ c ∈ lead, isBlank c = true) ∧ (∀ c ∈ tail, isBlank c = true) ∧
    SpellsMembers cs fields ∧ s.toList = lead ++ '\x7b' :: (cs ++ '\x7d' :: tail)

/-- Blanks do not prolong a number. -/
theorem endsNumber_append {blanks rest : List Char} (hblanks : ∀ c ∈ blanks, isBlank c = true)
    (hrest : EndsNumber rest) : EndsNumber (blanks ++ rest) := by
  cases blanks with
  | nil => exact hrest
  | cons b bs =>
    intro c hc
    obtain rfl : b = c := by simpa using hc
    have hb : isBlank b = true := hblanks b List.mem_cons_self
    simp only [isBlank, Bool.or_eq_true, beq_iff_eq] at hb
    rcases hb with ((rfl | rfl) | rfl) | rfl <;> decide

theorem isOver_iff {cs : List Char} : isOver cs = true ↔ ∀ c ∈ cs, isBlank c = true := by
  rw [isOver, skipBlanks, List.isEmpty_iff, List.dropWhile_eq_nil_iff]

/-! ### Reading members -/

section Members

variable {cs rest : List Char} {field : String × Literal} {fields : List (String × Literal)}

/-- A member starts with a key. -/
theorem SpellsMember.exists_key (h : SpellsMember cs field) :
    ∃ lead more, (∀ c ∈ lead, isBlank c = true) ∧ cs = lead ++ '\x22' :: more := by
  cases h with
  | mk hlead => exact ⟨_, _, hlead, rfl⟩

theorem SpellsMembers.exists_key (h : SpellsMembers cs fields) :
    ∃ lead more, (∀ c ∈ lead, isBlank c = true) ∧ cs = lead ++ '\x22' :: more := by
  cases h with
  | one h => exact h.exists_key
  | cons h =>
    obtain ⟨lead, more, hlead, rfl⟩ := h.exists_key
    exact ⟨lead, _, hlead, by rw [List.append_assoc, List.cons_append]⟩

/-- Every member takes up a character at least. -/
theorem SpellsMembers.length_le (h : SpellsMembers cs fields) : fields.length ≤ cs.length := by
  induction h with
  | one h =>
    obtain ⟨lead, more, -, rfl⟩ := h.exists_key
    simp only [List.length_append, List.length_cons, List.length_nil]
    omega
  | cons h _ ih =>
    simp only [List.length_append, List.length_cons]
    omega

/-- A member is read as an entry that tells it. Reading goes on behind it, unless its literal stands
for no value. -/
theorem SpellsMember.readEntries (h : SpellsMember cs field) (bound : Nat)
    (hrest : EndsNumber rest) :
    ∃ e : Entry, e.key = .ok field.1 ∧ e.value.Tells field.2 ∧
      (Json.readEntries (bound + 1) (cs ++ rest) =
          (match skipBlanks rest with
            | ',' :: rest =>
              let (entries, ending) := Json.readEntries bound rest
              (e :: entries, ending)
            | '\x7d' :: rest => ([e], .closed (isOver rest))
            | _ => ([e], .broken)) ∨
        field.2.scalar? = none ∧ Json.readEntries (bound + 1) (cs ++ rest) = ([e], .broken)) := by
  cases h with
  | @mk lead key gap gap' cs tail name literal hlead hkey hgap hgap' hliteral htail =>
    have hcolon : isBlank ':' = false := by decide
    have htext :
        lead ++ '\x22' :: (key ++ '\x22' :: (gap ++ ':' :: (gap' ++ (cs ++ tail)))) ++ rest =
          lead ++ '\x22' :: (key ++ '\x22' :: (gap ++ ':' :: (gap' ++ (cs ++ (tail ++ rest))))) := by
      simp
    have hmember : readMember (gap ++ ':' :: (gap' ++ (cs ++ (tail ++ rest)))) =
        readValue (gap' ++ (cs ++ (tail ++ rest))) := by
      rw [readMember, skipBlanks_append hgap hcolon]
      rfl
    have hskip : skipBlanks (tail ++ rest) = skipBlanks rest :=
      List.dropWhile_append_of_pos htail
    rw [htext, Json.readEntries, skipBlanks_append hlead (by decide)]
    simp only [hkey.readString, hmember]
    rcases hliteral.readValue hgap' (endsNumber_append htail hrest) with
      ⟨n, hn, hvalue⟩ | ⟨hnone, hvalue⟩
    · refine ⟨⟨.ok (String.ofList name), n⟩, rfl, hn, .inl ?_⟩
      rw [hvalue]
      exact hskip ▸ rfl
    · refine ⟨⟨.ok (String.ofList name), Node.malformed⟩, rfl, ?_, .inr ⟨hnone, ?_⟩⟩
      · rw [Node.Tells, hnone]
        exact ⟨_, rfl⟩
      · rw [hvalue]

/-- The members of an object are told by its entries. -/
theorem SpellsMembers.told (h : SpellsMembers cs fields) (hrest : isOver rest = true)
    {bound : Nat} (hbound : fields.length ≤ bound) :
    Told (Json.readEntries bound (cs ++ '\x7d' :: rest)).1
      (Json.readEntries bound (cs ++ '\x7d' :: rest)).2 fields := by
  induction h generalizing bound with
  | @one cs field h =>
    obtain ⟨bound, rfl⟩ := Nat.exists_eq_add_of_le' hbound
    have hends : EndsNumber ('\x7d' :: rest) := by
      rintro c ⟨⟩
      decide
    have hskip : skipBlanks ('\x7d' :: rest) = '\x7d' :: rest :=
      List.dropWhile_cons_of_neg (by decide)
    obtain ⟨e, hkey, hvalue, hread | ⟨hnone, hread⟩⟩ := h.readEntries bound hends
    · simp only [hskip, hrest] at hread
      exact hread ▸ .of_tells hkey hvalue fun _ ↦ .nil
    -- The text breaks off only where the literal is no value, and then nothing more is told.
    · exact hread ▸ .of_tells hkey hvalue fun hvalue ↦ absurd hnone hvalue
  | @cons cs more field fields h hmore ih =>
    obtain ⟨bound, rfl⟩ := Nat.exists_eq_add_of_le' (Nat.le_trans (Nat.le_add_left 1 _) hbound)
    have hends : EndsNumber (',' :: (more ++ '\x7d' :: rest)) := by
      rintro c ⟨⟩
      decide
    have hskip : skipBlanks (',' :: (more ++ '\x7d' :: rest)) = ',' :: (more ++ '\x7d' :: rest) :=
      List.dropWhile_cons_of_neg (by decide)
    rw [List.append_assoc, List.cons_append]
    obtain ⟨e, hkey, hvalue, hread | ⟨hnone, hread⟩⟩ := h.readEntries bound hends
    · simp only [hskip] at hread
      exact hread ▸ .of_tells hkey hvalue fun _ ↦ ih (Nat.le_of_succ_le_succ hbound)
    · exact hread ▸ .of_tells hkey hvalue fun hvalue ↦ absurd hnone hvalue

end Members

/-- Where a key comes next, an object is not at its end. -/
theorem readObject_of_key {cs rest : List Char} (h : skipBlanks cs = '\x22' :: rest) :
    readObject cs = .record (readEntries cs.length cs).1 (readEntries cs.length cs).2 := by
  rw [readObject, h]
  rfl

/-- The outline of an object tells its members. -/
theorem outline_of_spells {s : String} {fields : List (String × Literal)} (h : Spells s fields) :
    (outline s).Tells fields := by
  obtain ⟨lead, cs, tail, hlead, htail, hcs, hs⟩ := h
  have hbound : fields.length ≤ (cs ++ '\x7d' :: tail).length := by
    have := hcs.length_le
    rw [List.length_append]
    omega
  obtain ⟨blanks, more, hblanks, hkey⟩ := hcs.exists_key
  have hskip : skipBlanks (cs ++ '\x7d' :: tail) = '\x22' :: (more ++ '\x7d' :: tail) := by
    rw [hkey, List.append_assoc, List.cons_append]
    exact skipBlanks_append hblanks (by decide) _
  refine ⟨_, _, ?_, hcs.told (isOver_iff.2 htail) hbound⟩
  rw [outline, hs, skipBlanks_append hlead (by decide)]
  exact readObject_of_key hskip

/-! ### Written records -/

/-- A written field spells itself. -/
theorem spellsMember_writeField {lead gap tail : List Char} (hlead : ∀ c ∈ lead, isBlank c = true)
    (hgap : ∀ c ∈ gap, isBlank c = true) (htail : ∀ c ∈ tail, isBlank c = true)
    (field : String × Scalar) :
    SpellsMember (lead ++ (writeField gap field ++ tail)) (field.1, field.2.literal) := by
  have hnil : ∀ c ∈ [], isBlank c = true := nofun
  have hmember := SpellsMember.mk hlead (spellsText_flatMap_escape field.1.toList) hnil hgap
    (spellsLiteral_writeScalar field.2) htail
  rw [String.ofList_toList] at hmember
  simpa [writeField, writeString] using hmember

/-- The fields of a record, one after the other, up to the closing brace. -/
def lines (feed lead gap : List Char) (fields : List (String × Scalar)) : List Char :=
  (',' :: feed).intercalate (fields.map fun field ↦ lead ++ writeField gap field)

theorem lines_cons_cons (feed lead gap : List Char) (field next : String × Scalar)
    (fields : List (String × Scalar)) :
    lines feed lead gap (field :: next :: fields) =
      lead ++ (writeField gap field ++ ',' :: (feed ++ lines feed lead gap (next :: fields))) := by
  simp [lines]

section Layout

variable {feed lead gap : List Char} (hfeed : ∀ c ∈ feed, isBlank c = true)
  (hlead : ∀ c ∈ lead, isBlank c = true) (hgap : ∀ c ∈ gap, isBlank c = true)

include hfeed hlead hgap

/-- Written fields spell themselves. -/
theorem spellsMembers_lines (field : String × Scalar) (fields : List (String × Scalar)) :
    SpellsMembers (feed ++ (lines feed lead gap (field :: fields) ++ feed))
      ((field :: fields).map fun f ↦ (f.1, f.2.literal)) := by
  have hblanks : ∀ c ∈ feed ++ lead, isBlank c = true := by
    simpa [or_imp, forall_and] using ⟨hfeed, hlead⟩
  -- The field in front is kept apart, because a comma comes before every field but the first.
  induction fields generalizing field with
  | nil =>
    have hone := SpellsMembers.one (spellsMember_writeField hblanks hgap hfeed field)
    simpa [lines] using hone
  | cons next fields ih =>
    have hnil : ∀ c ∈ [], isBlank c = true := nofun
    have hmember := spellsMember_writeField hblanks hgap hnil field
    have hcons := SpellsMembers.cons hmember (ih next)
    simpa [lines_cons_cons] using hcons

/-- The outline of an object with some fields shows them, if only blanks come after it. -/
theorem outline_lines (field : String × Scalar) (fields : List (String × Scalar)) {s : String}
    {rest : List Char} (hrest : ∀ c ∈ rest, isBlank c = true)
    (hs : s.toList = '\x7b' ::
      (feed ++ (lines feed lead gap (field :: fields) ++ feed) ++ '\x7d' :: rest)) :
    (outline s).Shows (field :: fields) :=
  (outline_of_spells
    ⟨[], _, rest, nofun, hrest, spellsMembers_lines hfeed hlead hgap field fields, hs⟩).shows

end Layout

/-- The outline of a record with one field to a line shows its fields. -/
theorem outline_writePretty (fields : List (String × Scalar)) :
    (outline (writePretty fields)).Shows fields := by
  cases fields with
  | nil => exact ⟨[], rfl, .nil⟩
  | cons field fields =>
    have hfeed : ∀ c ∈ ['\n'], isBlank c = true := List.all_eq_true.1 (by decide)
    have hlead : ∀ c ∈ [' ', ' '], isBlank c = true := List.all_eq_true.1 (by decide)
    have hgap : ∀ c ∈ [' '], isBlank c = true := List.all_eq_true.1 (by decide)
    refine outline_lines hfeed hlead hgap field fields hfeed ?_
    simp [writePretty, lines]

/-- The outline of a record on one line shows its fields. -/
theorem outline_writeCompact (fields : List (String × Scalar)) :
    (outline (writeCompact fields)).Shows fields := by
  cases fields with
  | nil => exact ⟨[], rfl, .nil⟩
  | cons field fields =>
    have hblanks : ∀ c ∈ [], isBlank c = true := nofun
    refine outline_lines hblanks hblanks hblanks field fields hblanks ?_
    simp [writeCompact, lines]

end Fitout.Json
