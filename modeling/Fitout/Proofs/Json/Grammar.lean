import Fitout.Proofs.Json.Record

/-!
# The grammar of JSON

A document spells a value, which may have values inside (`Value`, `SpellsDocument`). A reader of
fields takes values without parts only (`Value.node?`), and finds exactly these in the text.

Main statements: `SpellsValue.readValue`, `exists_of_readValue`.
-/

namespace Fitout.Json

/-! ### Values -/

/-- A value of JSON; a number is kept as it is written. -/
inductive Value
  | null
  | bool (b : Bool)
  | number (m : Numeral)
  | text (s : String)
  | list (elements : List Value)
  | object (members : List (String × Value))

/-- Only blanks. -/
def AreBlanks (cs : List Char) : Prop :=
  ∀ c ∈ cs, isBlank c = true

mutual

/-- The characters of a value. -/
inductive SpellsValue : List Char → Value → Prop
  | null : SpellsValue "null".toList .null
  | true : SpellsValue "true".toList (.bool true)
  | false : SpellsValue "false".toList (.bool false)
  | number {cs : List Char} {m : Numeral} (h : SpellsNumeral cs m) : SpellsValue cs (.number m)
  | text {cs s : List Char} (h : SpellsText cs s) :
      SpellsValue ('\x22' :: (cs ++ ['\x22'])) (.text (String.ofList s))
  | emptyList {blanks : List Char} (hblanks : AreBlanks blanks) :
      SpellsValue ('\x5b' :: (blanks ++ ['\x5d'])) (.list [])
  | list {cs : List Char} {vs : List Value} (h : SpellsElements cs vs) :
      SpellsValue ('\x5b' :: (cs ++ ['\x5d'])) (.list vs)
  | emptyObject {blanks : List Char} (hblanks : AreBlanks blanks) :
      SpellsValue ('\x7b' :: (blanks ++ ['\x7d'])) (.object [])
  | object {cs : List Char} {members : List (String × Value)} (h : SpellsEntries cs members) :
      SpellsValue ('\x7b' :: (cs ++ ['\x7d'])) (.object members)

/-- A value with blanks around it. -/
inductive SpellsPadded : List Char → Value → Prop
  | mk {lead cs tail : List Char} {v : Value} (hlead : AreBlanks lead) (h : SpellsValue cs v)
      (htail : AreBlanks tail) : SpellsPadded (lead ++ (cs ++ tail)) v

/-- The elements of a list, at least one. -/
inductive SpellsElements : List Char → List Value → Prop
  | one {cs : List Char} {v : Value} (h : SpellsPadded cs v) : SpellsElements cs [v]
  | cons {cs more : List Char} {v : Value} {vs : List Value} (h : SpellsPadded cs v)
      (hmore : SpellsElements more vs) : SpellsElements (cs ++ ',' :: more) (v :: vs)

/-- A member of an object: a key and a value, with blanks around the parts. -/
inductive SpellsEntry : List Char → String × Value → Prop
  | mk {lead key gap cs name : List Char} {v : Value} (hlead : AreBlanks lead)
      (hkey : SpellsText key name) (hgap : AreBlanks gap) (h : SpellsPadded cs v) :
      SpellsEntry (lead ++ '\x22' :: (key ++ '\x22' :: (gap ++ ':' :: cs))) (String.ofList name, v)

/-- The members of an object, at least one. -/
inductive SpellsEntries : List Char → List (String × Value) → Prop
  | one {cs : List Char} {member : String × Value} (h : SpellsEntry cs member) :
      SpellsEntries cs [member]
  | cons {cs more : List Char} {member : String × Value} {members : List (String × Value)}
      (h : SpellsEntry cs member) (hmore : SpellsEntries more members) :
      SpellsEntries (cs ++ ',' :: more) (member :: members)

end

/-- A document of one value. -/
def SpellsDocument (s : String) (v : Value) : Prop :=
  SpellsPadded s.toList v

/-- What a value is to a reader of fields. A list or an object is nothing, and neither is a number
that is too large. -/
def Value.node? : Value → Option Node
  | null => some nullNode
  | bool _ => some Node.other
  | number m => m.number?.map Number.node
  | text s => some (textNode s.toList)
  | list _ | object _ => none

/-! ### Written strings -/

/-- A written string spells its text. -/
theorem spellsValue_writeString (s : String) : SpellsValue (writeString s) (.text s) := by
  have hspells := SpellsValue.text (spellsText_flatMap_escape s.toList)
  rw [String.ofList_toList] at hspells
  exact hspells

/-- A written string is the key of a member. -/
theorem spellsEntry_writeString (key : String) {cs : List Char} {v : Value}
    (h : SpellsValue cs v) : SpellsEntry (writeString key ++ ':' :: cs) (key, v) := by
  have hnil : AreBlanks [] := nofun
  have hspells := SpellsEntry.mk hnil (spellsText_flatMap_escape key.toList) hnil
    (.mk hnil h hnil)
  rw [String.ofList_toList] at hspells
  simpa [writeString] using hspells

/-! ### Reading a value -/

section ReadValue

variable {cs rest blanks : List Char} {n : Node} {v : Value}

theorem exists_blanks (cs : List Char) :
    ∃ blanks, AreBlanks blanks ∧ cs = blanks ++ skipBlanks cs :=
  ⟨_, fun _ hc ↦ List.mem_takeWhile_imp hc, (List.takeWhile_append_dropWhile).symm⟩

theorem readWord_append (n : Node) (letters rest : List Char) :
    Found.word n letters (letters ++ rest) = .value n rest := by
  rw [Found.word, if_pos (List.isPrefixOf_iff_prefix.2 (List.prefix_append _ _)), List.drop_left]

theorem eq_of_readWord {n' : Node} {letters : List Char}
    (h : Found.word n' letters cs = .value n rest) : n = n' ∧ cs = letters ++ rest := by
  rw [Found.word] at h
  split at h
  next hfront =>
    cases h
    obtain ⟨more, rfl⟩ := List.isPrefixOf_iff_prefix.1 hfront
    exact ⟨rfl, by rw [List.drop_left]⟩
  next => cases h

/-- A value that is something to a reader of fields is found, with blanks in front. -/
theorem SpellsValue.readValue (h : SpellsValue cs v) (hn : v.node? = some n)
    (hblanks : AreBlanks blanks) (hrest : EndsNumber rest) :
    readValue (blanks ++ (cs ++ rest)) = .value n rest := by
  cases h with
  | null =>
    cases hn
    show Json.readValue (blanks ++ 'n' :: ("ull".toList ++ rest)) = _
    rw [Json.readValue, skipBlanks_append hblanks (by decide)]
    exact readWord_append nullNode "ull".toList rest
  | true =>
    cases hn
    show Json.readValue (blanks ++ 't' :: ("rue".toList ++ rest)) = _
    rw [Json.readValue, skipBlanks_append hblanks (by decide)]
    exact readWord_append Node.other "rue".toList rest
  | false =>
    cases hn
    show Json.readValue (blanks ++ 'f' :: ("alse".toList ++ rest)) = _
    rw [Json.readValue, skipBlanks_append hblanks (by decide)]
    exact readWord_append Node.other "alse".toList rest
  | number h =>
    obtain ⟨k, hk, rfl⟩ := Option.map_eq_some_iff.1 hn
    rw [h.readValue hblanks hrest, hk]
  | text h =>
    cases hn
    rw [readValue_string h rest hblanks, String.toList_ofList]
  | emptyList | list | emptyObject | object => cases hn

/-- A value that is nothing to a reader of fields is not found. -/
theorem SpellsValue.readValue_ne (h : SpellsValue cs v) (hnone : v.node? = none)
    (hblanks : AreBlanks blanks) (hrest : EndsNumber rest) (n : Node) (tail : List Char) :
    Json.readValue (blanks ++ (cs ++ rest)) ≠ .value n tail := by
  cases h with
  | null | true | false | text => cases hnone
  | number h =>
    rw [h.readValue hblanks hrest, Option.map_eq_none_iff.1 hnone]
    exact Found.noConfusion
  | emptyList | list | emptyObject | object =>
    rw [List.cons_append, Json.readValue, skipBlanks_append hblanks (by decide)]
    exact Found.noConfusion

/-- What is found as a value is one. -/
theorem exists_of_readValue (h : readValue cs = .value n rest) :
    ∃ blanks vs v, AreBlanks blanks ∧ SpellsValue vs v ∧ v.node? = some n ∧
      cs = blanks ++ (vs ++ rest) := by
  obtain ⟨blanks, hblanks, hcs⟩ := exists_blanks cs
  suffices hvalue : ∃ vs v, SpellsValue vs v ∧ v.node? = some n ∧ skipBlanks cs = vs ++ rest by
    obtain ⟨vs, v, hv, hn, heq⟩ := hvalue
    exact ⟨blanks, vs, v, hblanks, hv, hn, by rw [hcs, heq]⟩
  rw [readValue] at h
  split at h
  · cases h
  next c more hskip =>
    rw [hskip]
    split_ifs at h with hquote hnumber hn ht hf hc
    · obtain rfl := eq_of_beq hquote
      split at h
      next s tail hread =>
        cases h
        obtain ⟨ss, hs, rfl⟩ := exists_of_readString hread
        exact ⟨_, _, .text hs, by simp [Value.node?], by simp⟩
      next => cases h
    · split at h
      next m tail hread =>
        split at h
        next k hk =>
          cases h
          obtain ⟨ns, hns, heq⟩ := exists_of_readNumeral hread
          exact ⟨_, _, .number hns, by simp [Value.node?, hk], heq⟩
        next => cases h
      next => cases h
    · obtain rfl := eq_of_beq hn
      obtain ⟨rfl, rfl⟩ := eq_of_readWord h
      exact ⟨_, _, .null, rfl, rfl⟩
    · obtain rfl := eq_of_beq ht
      obtain ⟨rfl, rfl⟩ := eq_of_readWord h
      exact ⟨_, _, .true, rfl, rfl⟩
    · obtain rfl := eq_of_beq hf
      obtain ⟨rfl, rfl⟩ := eq_of_readWord h
      exact ⟨_, _, .false, rfl, rfl⟩

end ReadValue

/-! ### Reading what follows a value -/

/-- A character that stands behind a value and is none of it. -/
def IsSeparator (c : Char) : Prop :=
  c = ',' ∨ c = '\x5d' ∨ c = '\x7d'

section Padded

variable {cs rest vs : List Char} {c : Char} {n : Node} {v : Value}

theorem IsSeparator.isBlank (hc : IsSeparator c) : isBlank c = false := by
  rcases hc with rfl | rfl | rfl <;> decide

theorem IsSeparator.endsNumber (hc : IsSeparator c) (rest : List Char) :
    EndsNumber (c :: rest) := by
  rintro d ⟨⟩
  rcases hc with rfl | rfl | rfl <;> decide

/-- A value with blanks around it is found, up to what separates it from the next. -/
theorem SpellsPadded.readValue (h : SpellsPadded cs v) (hn : v.node? = some n)
    (hc : IsSeparator c) (rest : List Char) :
    ∃ tail, readValue (cs ++ c :: rest) = .value n tail ∧ skipBlanks tail = c :: rest := by
  obtain ⟨hlead, h, htail⟩ := h
  refine ⟨_, ?_, skipBlanks_append htail hc.isBlank rest⟩
  rw [List.append_assoc, List.append_assoc]
  exact h.readValue hn hlead (endsNumber_append htail (hc.endsNumber rest))

/-- What is found of a value is what the value is. -/
theorem SpellsPadded.eq_of_readValue {tail : List Char} (h : SpellsPadded cs v)
    (hc : IsSeparator c) (hread : Json.readValue (cs ++ c :: rest) = .value n tail) :
    v.node? = some n ∧ skipBlanks tail = c :: rest := by
  rcases hn : v.node? with - | n'
  · obtain ⟨hlead, h, htail⟩ := h
    rw [List.append_assoc, List.append_assoc] at hread
    exact absurd hread
      (h.readValue_ne hn hlead (endsNumber_append htail (hc.endsNumber rest)) n tail)
  · obtain ⟨tail', hread', hskip⟩ := h.readValue hn hc rest
    rw [hread', Found.value.injEq] at hread
    exact ⟨congrArg some hread.1, hread.2 ▸ hskip⟩

theorem exists_padded_of_readValue {tail : List Char} (h : readValue cs = .value n tail) :
    ∃ vs v, SpellsPadded vs v ∧ v.node? = some n ∧ cs = vs ++ skipBlanks tail := by
  obtain ⟨lead, vs, v, hlead, hv, hn, rfl⟩ := exists_of_readValue h
  obtain ⟨blanks, hblanks, htail⟩ := exists_blanks tail
  refine ⟨_, v, .mk hlead hv hblanks, hn, ?_⟩
  rw [List.append_assoc, List.append_assoc, ← htail]

end Padded

end Fitout.Json
