import Fitout.Proofs.Car.Members
import Fitout.Proofs.Text.Lowercase

/-!
# Spellings of members

A text is read as a member exactly if it spells the name of the member, separators and the case of
ASCII letters disregarded (`Member.parse_eq_ok_iff`). The reader compares texts in full lower case,
and a character outside ASCII may have a letter of ASCII for its lower case; that none of them finds
its way into a name is because `k` is the only such letter and no member has it in its name
(`Member.Plain`).

Main statement: `Member.parse_isLenient`, for the four enumerations of a car.
-/

namespace Fitout

namespace Member

/-! ### Separators -/

theorem isSeparator_iff {c : Char} : isSeparator c = true ↔ c = '-' ∨ c = '_' ∨ c = ' ' := by
  simp [isSeparator, or_assoc]

theorem isSeparator_of_isLower {c : Char} (h : c.isLower = true) : isSeparator c = false := by
  rw [Bool.eq_false_iff]
  intro hsep
  rcases isSeparator_iff.1 hsep with rfl | rfl | rfl
  all_goals exact absurd h (by decide)

/-- Separators have no case. -/
theorem isSeparator_toLower (c : Char) : isSeparator c.toLower = isSeparator c := by
  by_cases hcapital : 65 ≤ c.toNat ∧ c.toNat ≤ 90
  · have hlower : c.toLower.isLower = true := by
      rw [Text.isLower_iff, Text.toNat_toLower hcapital]
      omega
    rw [isSeparator_of_isLower hlower, eq_comm, Bool.eq_false_iff]
    intro hsep
    rcases isSeparator_iff.1 hsep with rfl | rfl | rfl
    all_goals exact absurd hcapital (by decide)
  · rw [Text.toLower_eq_self (by omega)]

/-! ### Respelled texts -/

/-- Two texts that differ in separators and in the case of ASCII letters only. -/
inductive Respells : List Char → List Char → Prop
  | nil : Respells [] []
  /-- A character stands in both texts, perhaps in another case. -/
  | recase {c d : Char} {cs ds : List Char} (h : c.toLower = d.toLower) (hrest : Respells cs ds) :
      Respells (c :: cs) (d :: ds)
  /-- A separator stands in the second text only. -/
  | insert {c : Char} {cs ds : List Char} (h : isSeparator c = true) (hrest : Respells cs ds) :
      Respells cs (c :: ds)
  /-- A separator stands in the first text only. -/
  | delete {c : Char} {cs ds : List Char} (h : isSeparator c = true) (hrest : Respells cs ds) :
      Respells (c :: cs) ds

/-- The characters of a text that are no separators. -/
def letters (cs : List Char) : List Char :=
  cs.filter (!isSeparator ·)

theorem Respells.letters_eq {cs ds : List Char} (h : Respells cs ds) :
    (letters cs).map Char.toLower = (letters ds).map Char.toLower := by
  induction h with
  | nil => rfl
  | @recase c d cs ds h _ ih =>
    have hsep : isSeparator c = isSeparator d := by
      rw [← isSeparator_toLower, h, isSeparator_toLower]
    unfold letters at ih ⊢
    rw [List.filter_cons, List.filter_cons, hsep]
    split
    · rw [List.map_cons, List.map_cons, h, ih]
    · exact ih
  | insert h _ ih =>
    rw [ih, letters, letters, List.filter_cons_of_neg (by simpa using h)]
  | delete h _ ih =>
    rw [← ih, letters, letters, List.filter_cons_of_neg (by simpa using h)]

/-! ### Names -/

/-- An enumeration whose members are named by small letters of ASCII other than `k`, joined by
hyphens. -/
class Plain (α : Type) [Member α] : Prop where
  /-- The characters of a name. -/
  all_name : ∀ m : α, (name m).toList.all (fun c ↦ c == '-' || c.isLower && c != 'k') = true

instance : Plain Engine where
  all_name m := by cases m <;> decide

instance : Plain Camera where
  all_name m := by cases m <;> decide

instance : Plain Smartphone where
  all_name m := by cases m <;> decide

instance : Plain Adas where
  all_name m := by cases m <;> decide

theorem Plain.mem_name {α : Type} [Member α] [Plain α] (m : α) {c : Char}
    (hc : c ∈ (name m).toList) : c = '-' ∨ (c.isLower = true ∧ c ≠ 'k') := by
  simpa using List.all_eq_true.1 (all_name m) c hc

section Reading

variable {α : Type} [Member α] {s t : String} {m : α}

/-- The name of a member without its hyphens. -/
def nameLetters (m : α) : List Char :=
  (name m).toList.filter (· != '-')

/-- A text spells a member if, without separators and up to the case of ASCII letters, it is the
name of the member without hyphens. -/
def Spells (s : String) (m : α) : Prop :=
  (letters s.toList).map Char.toLower = (nameLetters m).map Char.toLower

theorem parse_eq_ok_iff_ofName? : parse s = .ok m ↔ ofName? s = some m := by
  rw [parse]
  split <;> simp [*]

variable [Plain α]

theorem mem_nameLetters {c : Char} (hc : c ∈ nameLetters m) : c.isLower = true ∧ c ≠ 'k' := by
  obtain ⟨hmem, hhyphen⟩ := List.mem_filter.1 hc
  exact (Plain.mem_name m hmem).resolve_left (by simpa using hhyphen)

/-- The only separators in a name are its hyphens. -/
theorem letters_name (m : α) : letters (name m).toList = nameLetters m := by
  refine List.filter_congr fun c hc ↦ ?_
  rcases Plain.mem_name m hc with rfl | ⟨hlower, -⟩
  · rfl
  · have hne : c ≠ '-' := by
      rintro rfl
      exact absurd hlower (by decide)
    simp [isSeparator_of_isLower hlower, hne]

/-- The letters of a name are small. -/
theorem map_toLower_nameLetters (m : α) : (nameLetters m).map Char.toLower = nameLetters m := by
  have hself : ∀ c ∈ nameLetters m, c.toLower = id c := by
    intro c hc
    have hcode := Text.isLower_iff.1 (mem_nameLetters hc).1
    exact Text.toLower_eq_self (by omega)
  rw [List.map_congr_left hself, List.map_id]

/-- What is compared are the letters in full lower case, and this makes no difference. -/
theorem compact_eq_iff : compact s = compact (name m) ↔ Spells s m := by
  have hword : ∀ d ∈ nameLetters m, d.toNat < 0x80 ∧ d ≠ 'k' := by
    intro d hd
    obtain ⟨hlower, hk⟩ := mem_nameLetters hd
    have hcode := Text.isLower_iff.1 hlower
    exact ⟨by omega, hk⟩
  have hname : compact (name m) = nameLetters m := by
    show Text.lowercaseAll (letters (name m).toList) = nameLetters m
    rw [letters_name]
    exact (Text.lowercaseAll_eq_iff hword).2 (map_toLower_nameLetters m)
  rw [hname, Spells, map_toLower_nameLetters]
  exact Text.lowercaseAll_eq_iff hword

/-- The letters of a text that spells a member are letters of ASCII. -/
theorem Spells.isAlpha_or_isSeparator (h : Spells s m) {c : Char} (hc : c ∈ s.toList) :
    c.isAlpha = true ∨ isSeparator c = true := by
  by_cases hsep : isSeparator c = true
  · exact .inr hsep
  · have hletter : c ∈ letters s.toList := List.mem_filter.2 ⟨hc, by simpa using hsep⟩
    have hlower : c.toLower ∈ nameLetters m := by
      rw [← map_toLower_nameLetters, ← h]
      exact List.mem_map_of_mem hletter
    exact .inl (Text.isAlpha_of_toLower (mem_nameLetters hlower).1)

variable [Readable α]

/-- A text is read as the member that it spells. -/
theorem parse_eq_ok_iff : parse s = .ok m ↔ Spells s m := by
  rw [parse_eq_ok_iff_ofName?, ← compact_eq_iff]
  constructor
  · intro h
    have hbeq := List.find?_some h
    exact (eq_of_beq hbeq).symm
  · intro h
    -- The text is searched for as the name of the member is, which finds the member.
    have hself : ofName? (name m) = some m := parse_eq_ok_iff_ofName?.1 (parse_name m)
    rw [ofName?, h]
    exact hself

theorem Spells.unique {m' : α} (h : Spells s m) (h' : Spells s m') : m = m' :=
  Except.ok.inj ((parse_eq_ok_iff.2 h).symm.trans (parse_eq_ok_iff.2 h'))

/-- Respelled texts are read as the same member. -/
theorem Respells.parse_eq_ok_iff (h : Respells s.toList t.toList) :
    parse s = .ok m ↔ parse t = .ok m := by
  rw [Member.parse_eq_ok_iff, Member.parse_eq_ok_iff, Spells, Spells, h.letters_eq]

end Reading

/-! ### The enumerations of a car -/

/-- What the reader of an enumeration disregards, and that it disregards nothing else. -/
structure IsLenient (α : Type) [Member α] : Prop where
  /-- Exactly the texts that spell a member are read, and as this member. -/
  reads : ∀ (s : String) (m : α), parse s = .ok m ↔ Spells s m
  /-- No text is read that has a character other than the letters of ASCII and the separators. -/
  plain : ∀ (s : String) (m : α), parse s = .ok m →
    ∀ c ∈ s.toList, c.isAlpha = true ∨ isSeparator c = true
  /-- No text spells two members. -/
  unique : ∀ (s : String) (m m' : α), Spells s m → Spells s m' → m = m'
  /-- Separators that are put in or left out and letters in another case make no difference. -/
  respelled : ∀ s t : String, Respells s.toList t.toList →
    ∀ m : α, parse s = .ok m ↔ parse t = .ok m

theorem isLenient (α : Type) [Member α] [Plain α] [Readable α] : IsLenient α where
  reads _ _ := parse_eq_ok_iff
  plain _ _ h _ hc := (parse_eq_ok_iff.1 h).isAlpha_or_isSeparator hc
  unique _ _ _ := Spells.unique
  respelled _ _ h _ := h.parse_eq_ok_iff

/-- The readers of engines, cameras, smartphone links and driver assistance take exactly the names
of the members, in any case of ASCII letters and with separators anywhere. -/
theorem parse_isLenient :
    IsLenient Engine ∧ IsLenient Camera ∧ IsLenient Smartphone ∧ IsLenient Adas :=
  ⟨isLenient Engine, isLenient Camera, isLenient Smartphone, isLenient Adas⟩

end Member

end Fitout
