import Fitout.Proofs.Car.Spelling
import Fitout.Proofs.Car.Values

/-!
# Cars on one line

Cars that are displayed alike are the same (`Car.display_eq_iff`). The brand stands in the middle of
the line as it is, and may itself look like the rest of a line. But no value behind it has an equals
sign, so the line is taken apart from its end, one label after the other, until the brand is all
that is left behind the identifier; and the digits of the identifier end at the first comma.
-/

namespace Fitout

/-! ### Marks in a line -/

section Marks

variable {a b c d : List Char} {x : Char}

/-- The first mark parts a line in one way only. -/
theorem append_cons_inj_of_first (ha : x ∉ a) (hc : x ∉ c) (h : a ++ x :: b = c ++ x :: d) :
    a = c ∧ b = d := by
  induction a generalizing c with
  | nil =>
    cases c with
    | nil => exact ⟨rfl, (List.cons.inj h).2⟩
    | cons y c => exact absurd (List.mem_cons.2 (.inl (List.cons.inj h).1)) hc
  | cons z a ih =>
    cases c with
    | nil => exact absurd (List.mem_cons.2 (.inl (List.cons.inj h).1.symm)) ha
    | cons y c =>
      obtain ⟨hhead, htail⟩ := List.cons.inj h
      obtain ⟨hfront, hrest⟩ := ih (fun hx ↦ ha (List.mem_cons_of_mem _ hx))
        (fun hx ↦ hc (List.mem_cons_of_mem _ hx)) htail
      exact ⟨by rw [hhead, hfront], hrest⟩

/-- The last mark parts a line in one way only. -/
theorem append_cons_inj_of_last (hb : x ∉ b) (hd : x ∉ d) (h : a ++ x :: b = c ++ x :: d) :
    a = c ∧ b = d := by
  have hreverse : b.reverse ++ x :: a.reverse = d.reverse ++ x :: c.reverse := by
    simpa using congrArg List.reverse h
  obtain ⟨hbd, hac⟩ := append_cons_inj_of_first (by simpa using hb) (by simpa using hd) hreverse
  exact ⟨List.reverse_inj.1 hac, List.reverse_inj.1 hbd⟩

/-- A label that ends in an equals sign parts a line from a value without one. -/
theorem append_label_inj (label : String) (hlabel : label.toList.getLast? = some '=')
    (hb : '=' ∉ b) (hd : '=' ∉ d) (h : a ++ label.toList ++ b = c ++ label.toList ++ d) :
    a = c ∧ b = d := by
  obtain ⟨front, hfront⟩ := List.getLast?_eq_some_iff.1 hlabel
  have hmark : (a ++ front) ++ '=' :: b = (c ++ front) ++ '=' :: d := by simpa [hfront] using h
  obtain ⟨hac, hbd⟩ := append_cons_inj_of_last hb hd hmark
  exact ⟨List.append_cancel_right hac, hbd⟩

end Marks

/-! ### Values by their texts -/

theorem CarId.toString_injective : Function.Injective (toString : CarId → String) := by
  intro a b h
  exact Except.ok.inj ((parse_toString a).symm.trans (h ▸ parse_toString b))

theorem Brand.text_injective : Function.Injective text := by
  intro a b h
  exact Except.ok.inj ((parse_text a).symm.trans (h ▸ parse_text b))

section Members

variable {α : Type} [Member α]

theorem Member.name_injective [Readable α] : Function.Injective (name : α → String) := by
  intro m m' h
  exact Except.ok.inj ((parse_name m).symm.trans (h ▸ parse_name m'))

theorem Member.equals_not_mem_name [Plain α] (m : α) : '=' ∉ (name m).toList := by
  intro h
  rcases Plain.mem_name m h with heq | ⟨hlower, -⟩
  · exact absurd heq (by decide)
  · exact absurd hlower (by decide)

theorem Car.equals_not_mem_orDash [Member.Plain α] (v : Option α) : '=' ∉ (orDash v).toList := by
  cases v with
  | none =>
    show '=' ∉ "-".toList
    decide
  | some m => exact Member.equals_not_mem_name m

/-- An absent value is told from every member, if none is named by a dash. -/
theorem Car.orDash_injective [Member.Readable α] (hdash : ∀ m : α, Member.name m ≠ "-") :
    Function.Injective (orDash : Option α → String) := by
  intro v w h
  match v, w with
  | none, none => rfl
  | none, some m => exact absurd h.symm (hdash m)
  | some m, none => exact absurd h (hdash m)
  | some m, some m' => exact congrArg some (Member.name_injective h)

end Members

/-! ### Lines -/

namespace Car

theorem comma_not_mem_toString (id : CarId) : ',' ∉ (toString id).toList := by
  intro h
  have hdigit : ','.isDigit = true :=
    Decimal.isDigit_of_mem_toDigits (Decimal.toList_write id.value.toNat ▸ h)
  exact absurd hdigit (by decide)

/-- The digits of an identifier end at the first comma. -/
theorem append_brand_inj {a b : CarId} {x y : List Char}
    (h : "[id=".toList ++ (toString a).toList ++ ", brand=".toList ++ x =
      "[id=".toList ++ (toString b).toList ++ ", brand=".toList ++ y) : a = b ∧ x = y := by
  have hcomma : (toString a).toList ++ ',' :: (" brand=".toList ++ x) =
      (toString b).toList ++ ',' :: (" brand=".toList ++ y) := by
    simpa using h
  obtain ⟨hid, hrest⟩ := append_cons_inj_of_first (comma_not_mem_toString a)
    (comma_not_mem_toString b) hcomma
  exact ⟨CarId.toString_injective (String.toList_injective hid), List.append_cancel_left hrest⟩

/-- Cars that are displayed alike have the same in every field. -/
theorem same_of_display_eq {c d : Car} (h : c.display = d.display) (f : Field) : f.Same c d := by
  have hline := congrArg String.toList h
  unfold display at hline
  simp only [String.toList_append] at hline
  have hline := List.append_cancel_right hline
  obtain ⟨hline, hadas⟩ := append_label_inj ", adas=" (by decide)
    (equals_not_mem_orDash c.adas) (equals_not_mem_orDash d.adas) hline
  obtain ⟨hline, hsmartphone⟩ := append_label_inj ", smartphone=" (by decide)
    (equals_not_mem_orDash c.smartphone) (equals_not_mem_orDash d.smartphone) hline
  obtain ⟨hline, hcamera⟩ := append_label_inj ", camera=" (by decide)
    (equals_not_mem_orDash c.camera) (equals_not_mem_orDash d.camera) hline
  obtain ⟨hline, hengine⟩ := append_label_inj ", engine=" (by decide)
    (Member.equals_not_mem_name c.engine) (Member.equals_not_mem_name d.engine) hline
  -- The brand may hold labels of its own, but it is now the last that is left.
  obtain ⟨hid, hbrand⟩ := append_brand_inj hline
  cases f with
  | id => exact hid
  | brand => exact Brand.text_injective (String.toList_injective hbrand)
  | engine => exact Member.name_injective (String.toList_injective hengine)
  | camera =>
    exact orDash_injective (fun m ↦ by cases m <;> decide) (String.toList_injective hcamera)
  | smartphone =>
    exact orDash_injective (fun m ↦ by cases m <;> decide) (String.toList_injective hsmartphone)
  | adas => exact orDash_injective (fun m ↦ by cases m <;> decide) (String.toList_injective hadas)

/-- Cars that are displayed alike are the same. In particular a car that leaves a field open is not
displayed like one that states none there. -/
theorem display_eq_iff (c d : Car) :
    (c.display = d.display ↔ c = d) ∧
      ∀ f, c.value? f = none → d.value? f = some "none" → c.display ≠ d.display := by
  have hinjective (h : c.display = d.display) : c = d :=
    Field.Same.eq_of_forall (same_of_display_eq h)
  refine ⟨⟨hinjective, congrArg display⟩, fun f hopen hnone h ↦ ?_⟩
  rw [hinjective h, hnone] at hopen
  cases hopen

/-- A brand that looks like the end of a line. -/
example : display ⟨⟨7, by decide⟩, ⟨"VW, engine=lng]", by decide, by decide, by simp; decide,
    by decide⟩, .diesel, none, some .none, none⟩ =
      "[id=7, brand=VW, engine=lng], engine=diesel, camera=-, smartphone=none, adas=-]" := by
  rfl

end Car

end Fitout
