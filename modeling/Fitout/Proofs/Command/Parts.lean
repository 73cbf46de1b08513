import Fitout.Proofs.Command.Assignments
import Fitout.Proofs.Text.Blank

/-!
# The two parts of an assignment

The first equals sign of a text parts it into a field and a value (`Assignment.Parts`), and an
assignment is what the trims of the two parts say (`Assignment.parse_eq_of_parts`): it can be read
if something is left of the field, and the value then decides between setting and making absent.

Since only the trims count, blanks may be put around the parts (`Assignment.Parts.toOption_parse`).
And since a trim is its own trim and has no equals sign that the field did not have, every
assignment that was read can be written (`Assignment.isWritable_of_parse`).
-/

namespace Fitout.Assignment

/-- A text is a field and a value with an equals sign between them, the first of the text. -/
structure Parts (raw field value : String) : Prop where
  /-- The parts make the text. -/
  text : raw = field ++ "=" ++ value
  /-- The equals sign between them is the first. -/
  unparted : '=' ∉ field.toList

variable {raw field value : String} {a : Assignment}

/-- Every text with an equals sign has two parts. -/
theorem exists_parts_iff : (∃ field value, Parts raw field value) ↔ '=' ∈ raw.toList := by
  constructor
  · rintro ⟨field, value, rfl, -⟩
    simp
  · intro h
    obtain ⟨field, value, htext, hunparted⟩ := List.eq_append_cons_of_mem h
    refine ⟨String.ofList field, String.ofList value, ?_, by rwa [String.toList_ofList]⟩
    rw [← String.toList_inj, htext]
    simp

/-! ### Reading the parts -/

/-- The trims of the parts decide what is read. -/
theorem parse_eq_of_parts (h : Parts raw field value) :
    parse raw =
      if Text.trim field = "" then .error (.arguments (.noField raw))
      else if Text.trim value = "" ∨ Text.trim value = "~" then .ok (.unset (Text.trim field))
      else .ok (.set (Text.trim field) (Text.trim value)) := by
  have htext : raw = String.ofList (field.toList ++ '=' :: value.toList) := by
    rw [h.text, ← String.toList_inj]
    simp
  have hempty (s : String) : (Text.trimChars s.toList).isEmpty = true ↔ Text.trim s = "" := by
    rw [List.isEmpty_iff, ← String.toList_inj, Text.toList_trim]
    rfl
  have htilde : (Text.trimChars value.toList == ['~']) = true ↔ Text.trim value = "~" := by
    rw [beq_iff_eq, ← String.toList_inj, Text.toList_trim]
    rfl
  have habsent : ((Text.trimChars value.toList).isEmpty ||
      Text.trimChars value.toList == ['~']) = true ↔
        Text.trim value = "" ∨ Text.trim value = "~" := by
    rw [Bool.or_eq_true, hempty, htilde]
  rw [htext, parse_append h.unparted]
  by_cases hfield : Text.trim field = ""
  · rw [if_pos hfield, if_pos ((hempty field).2 hfield)]
  · rw [if_neg hfield, if_neg (mt (hempty field).1 hfield)]
    by_cases hvalue : Text.trim value = "" ∨ Text.trim value = "~"
    · rw [if_pos hvalue, if_pos (habsent.2 hvalue)]
      rfl
    · rw [if_neg hvalue, if_neg (mt habsent.1 hvalue)]
      rfl

theorem parse_of_not_mem (h : '=' ∉ raw.toList) :
    parse raw = .error (.arguments (.noEquals raw)) := by
  have hdrop : raw.toList.dropWhile (· != '=') = [] :=
    List.dropWhile_eq_nil_iff.2 fun c hc ↦ bne_iff_ne.2 fun heq ↦ h (heq ▸ hc)
  rw [parse, hdrop]

theorem exists_parts_of_parse (h : parse raw = .ok a) : ∃ field value, Parts raw field value := by
  refine exists_parts_iff.2 (Decidable.byContradiction fun hmem ↦ ?_)
  rw [parse_of_not_mem hmem] at h
  cases h

/-- Something is read of the parts if the field is not blank. -/
theorem Parts.parse_eq_ok_iff (h : Parts raw field value) :
    parse raw = .ok a ↔ Text.trim field ≠ "" ∧
      a = if Text.trim value = "" ∨ Text.trim value = "~" then .unset (Text.trim field)
        else .set (Text.trim field) (Text.trim value) := by
  rw [parse_eq_of_parts h]
  by_cases hfield : Text.trim field = ""
  · simp [hfield]
  · rw [if_neg hfield, ← apply_ite Except.ok, Except.ok.injEq]
    exact ⟨fun ha ↦ ⟨hfield, ha.symm⟩, fun ha ↦ ha.2.symm⟩

/-- An assignment is what two parts state. -/
structure StatedBy (a : Assignment) (field value : String) : Prop where
  /-- The name is the field without the blanks around it. -/
  name : a.name = Text.trim field
  /-- There is a name. -/
  nonempty : a.name ≠ ""
  /-- No blanks stand around the name. -/
  trimmed : Text.trim a.name = a.name
  /-- The name has no equals sign. -/
  unparted : '=' ∉ a.name.toList
  /-- The field is made absent exactly if the value is blank or a tilde with blanks around it. -/
  unset : a = .unset a.name ↔ Text.trim value = "" ∨ Text.trim value = "~"
  /-- Otherwise the field is set to the value without the blanks around it. -/
  set : ∀ s, a = .set a.name s ↔ s = Text.trim value ∧ s ≠ "" ∧ s ≠ "~"
  /-- The equals signs of the value are kept. -/
  marks : ∀ s, a.text? = some s → s.toList.count '=' = value.toList.count '='

/-- What is read of two parts is what they state. -/
theorem Parts.statedBy (h : Parts raw field value) (ha : parse raw = .ok a) :
    a.StatedBy field value := by
  obtain ⟨hfield, rfl⟩ := h.parse_eq_ok_iff.1 ha
  have hunparted : '=' ∉ (Text.trim field).toList := by
    rw [Text.toList_trim, ← List.count_eq_zero, Text.count_trimChars (by decide),
      List.count_eq_zero]
    exact h.unparted
  by_cases hvalue : Text.trim value = "" ∨ Text.trim value = "~"
  · rw [if_pos hvalue]
    refine ⟨rfl, hfield, Text.trim_trim field, hunparted, iff_of_true rfl hvalue, fun s ↦ ?_, nofun⟩
    refine iff_of_false nofun ?_
    rintro ⟨rfl, hempty, htilde⟩
    exact hvalue.elim hempty htilde
  · rw [if_neg hvalue]
    refine ⟨rfl, hfield, Text.trim_trim field, hunparted, iff_of_false nofun hvalue, fun s ↦ ?_,
      fun s hs ↦ ?_⟩
    · constructor
      · rintro ⟨⟩
        exact ⟨rfl, not_or.1 hvalue⟩
      · rintro ⟨rfl, -⟩
        rfl
    · cases hs
      rw [Text.toList_trim, Text.count_trimChars (by decide)]

/-- It takes an equals sign to make an assignment, and a field that is not blank. -/
theorem exists_parse_iff : (∃ a, parse raw = .ok a) ↔
    ∃ field value, Parts raw field value ∧ ∃ c ∈ field.toList, Text.isBlank c = false := by
  have hblank (field : String) :
      Text.trim field ≠ "" ↔ ∃ c ∈ field.toList, Text.isBlank c = false := by
    rw [Ne, Text.trim_eq_empty_iff]
    simp
  constructor
  · rintro ⟨a, ha⟩
    obtain ⟨field, value, h⟩ := exists_parts_of_parse ha
    exact ⟨field, value, h, (hblank field).1 (h.parse_eq_ok_iff.1 ha).1⟩
  · rintro ⟨field, value, h, hfield⟩
    exact ⟨_, h.parse_eq_ok_iff.2 ⟨(hblank field).2 hfield, rfl⟩⟩

/-! ### Writing what was read -/

/-- An assignment that was read can be written. -/
theorem isWritable_of_parse (h : parse raw = .ok a) : a.IsWritable := by
  obtain ⟨field, value, hparts⟩ := exists_parts_of_parse h
  have hstated := hparts.statedBy h
  refine ⟨mt String.toList_eq_nil_iff.1 hstated.nonempty, ?_, hstated.unparted, fun s hs ↦ ?_⟩
  · rw [← Text.toList_trim, hstated.trimmed]
  · have hset : a = .set a.name s := by
      cases a <;> cases hs
      rfl
    obtain ⟨rfl, hvalue⟩ := (hstated.set s).1 hset
    exact ⟨by rw [← Text.toList_trim, Text.trim_trim], hvalue⟩

/-! ### Blanks around the parts -/

/-- Blanks around the parts make no difference to what is read, or that nothing is. -/
theorem Parts.toOption_parse (h : Parts raw field value) {field' value' : String}
    (hfield : Text.Pads field field') (hvalue : Text.Pads value value') :
    (parse (field' ++ "=" ++ value')).toOption = (parse raw).toOption := by
  have hpads : Parts (field' ++ "=" ++ value') field' value' :=
    ⟨rfl, hfield.not_mem (by decide) h.unparted⟩
  rw [parse_eq_of_parts h, parse_eq_of_parts hpads, hfield.trim_eq, hvalue.trim_eq]
  by_cases hempty : Text.trim field = ""
  · rw [if_pos hempty, if_pos hempty]
    rfl
  · rw [if_neg hempty, if_neg hempty]

/-! ### Texts of assignments -/

/-- **An assignment is what the two parts of its text state.** A text can be read exactly if it has
an equals sign and the part before the first one is not blank. What is read can be written, and is
then read back as it was. Blanks around the parts make no difference. -/
theorem parse_of_parts (raw : String) :
    ((∃ a, parse raw = .ok a) ↔
      ∃ field value, Parts raw field value ∧ ∃ c ∈ field.toList, Text.isBlank c = false) ∧
    (∀ a, parse raw = .ok a → parse a.written = .ok a) ∧
    ∀ field value, Parts raw field value →
      (∀ a, parse raw = .ok a → a.StatedBy field value) ∧
      ∀ field' value', Text.Pads field field' → Text.Pads value value' →
        (parse (field' ++ "=" ++ value')).toOption = (parse raw).toOption :=
  ⟨exists_parse_iff, fun _ ha ↦ parse_written (isWritable_of_parse ha), fun _ _ h ↦
    ⟨fun _ ha ↦ h.statedBy ha, fun _ _ hfield hvalue ↦ h.toOption_parse hfield hvalue⟩⟩

/-- A value with a tilde and an equals sign of its own, and blanks of several kinds put around. -/
theorem parse_of_parts_padded :
    ∃ a, parse "brand=~ id=7" = .ok a ∧ a.StatedBy "brand" "~ id=7" ∧
      parse a.written = .ok a ∧ (parse "\u2003brand =\t~ id=7\n").toOption = some a := by
  obtain ⟨hread, hback, hparts⟩ := parse_of_parts "brand=~ id=7"
  obtain ⟨hstated, hpads⟩ := hparts "brand" "~ id=7" ⟨rfl, by decide⟩
  obtain ⟨a, ha⟩ := hread.2 ⟨"brand", "~ id=7", ⟨rfl, by decide⟩, 'b', by decide, by decide⟩
  have hfield : Text.Pads "brand" ("\u2003" ++ "brand" ++ " ") :=
    ⟨List.all_eq_true.1 (by decide), List.all_eq_true.1 (by decide)⟩
  have hvalue : Text.Pads "~ id=7" ("\t" ++ "~ id=7" ++ "\n") :=
    ⟨List.all_eq_true.1 (by decide), List.all_eq_true.1 (by decide)⟩
  have hsome : (parse "brand=~ id=7").toOption = some a := by
    rw [ha]
    rfl
  exact ⟨a, ha, hstated a ha, hback a ha, (hpads _ _ hfield hvalue).trans hsome⟩

end Fitout.Assignment
