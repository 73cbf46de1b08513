import Fitout.Document
import Fitout.Proofs.Ends
import Mathlib.Data.List.Basic

/-!
# The check of a raw sheet

A raw sheet is checked in an order of its own: the engine, the identifier and the brand, then the
optional fields one by one. Which sheets pass does not depend on the order: those whose values are
accepted for their fields, each for itself (`Sheet.Raw.check_eq_ok_iff`).
-/

namespace Fitout

namespace Sheet

/-- An optional value that is checked where it is stated. -/
def optionally {α β : Type} (check : α → Except Rejection β) :
    Option α → Except Rejection (Option β)
  | none => .ok none
  | some v => (check v).map some

section Optionally

variable {α β : Type} {check : α → Except Rejection β} {v : Option α}

theorem optionally_eq_ok_none : optionally check v = .ok none ↔ v = none := by
  cases v <;> simp [optionally, Except.map_eq_ok_iff]

theorem optionally_eq_ok_some {b : β} :
    optionally check v = .ok (some b) ↔ ∃ a, v = some a ∧ check a = .ok b := by
  cases v <;> simp [optionally, Except.map_eq_ok_iff]

end Optionally

section Stated

variable {α : Type} [Member α] (field : Field) (put : Option α → Car → Car)

/-- An optional field is set if it is not stated or its value is accepted. -/
theorem foldlM_toList_eq_ok_iff (v : Option String) (c car : Car) (hput : put none c = c)
    (hset : ∀ v, c.set field v = (Member.parse v).map fun m ↦ put (some m) c) :
    (v.map (field, ·)).toList.foldlM (fun c v ↦ Car.set c v.1 v.2) c = .ok car ↔
      ∃ m, optionally Member.parse v = .ok m ∧ put m c = car := by
  cases v with
  | none =>
    show Except.ok c = .ok car ↔ _
    simp [optionally, hput]
  | some v =>
    simp only [Option.map_some, Option.toList_some, List.foldlM_cons, List.foldlM_nil, bind_pure]
    simp [hset, optionally, Except.map_eq_ok_iff]

end Stated

/-- A raw sheet passes the check if each of its values is accepted for its field. -/
theorem Raw.check_eq_ok_iff {s : Raw} {car : Car} :
    s.check = .ok car ↔
      CarId.ofWord s.id = .ok car.id ∧ Brand.parse s.brand = .ok car.brand ∧
        Member.parse s.engine = .ok car.engine ∧
          optionally Member.parse s.camera = .ok car.camera ∧
            optionally Member.parse s.smartphone = .ok car.smartphone ∧
              optionally Member.parse s.adas = .ok car.adas := by
  have hcamera {c car : Car} (h : c.camera = none) := foldlM_toList_eq_ok_iff .camera
    (fun v c ↦ { c with camera := v }) s.camera c car (by rw [← h]) fun _ ↦ rfl
  have hsmartphone {c car : Car} (h : c.smartphone = none) := foldlM_toList_eq_ok_iff .smartphone
    (fun v c ↦ { c with smartphone := v }) s.smartphone c car (by rw [← h]) fun _ ↦ rfl
  have hadas {c car : Car} (h : c.adas = none) := foldlM_toList_eq_ok_iff .adas
    (fun v c ↦ { c with adas := v }) s.adas c car (by rw [← h]) fun _ ↦ rfl
  simp only [check, Car.create, stated, List.foldlM_append, Except.bind_eq_ok_iff]
  constructor
  · rintro ⟨engine, hengine, c, ⟨id, hid, brand, hbrand, ⟨⟩⟩, c', ⟨c'', h, h'⟩, h''⟩
    obtain ⟨camera, hcamera, rfl⟩ := (hcamera rfl).1 h
    obtain ⟨smartphone, hsmartphone, rfl⟩ := (hsmartphone rfl).1 h'
    obtain ⟨adas, hadas, rfl⟩ := (hadas rfl).1 h''
    exact ⟨hid, hbrand, hengine, hcamera, hsmartphone, hadas⟩
  · rintro ⟨hid, hbrand, hengine, h, h', h''⟩
    exact ⟨_, hengine, _, ⟨_, hid, _, hbrand, rfl⟩, _,
      ⟨_, (hcamera rfl).2 ⟨_, h, rfl⟩, (hsmartphone rfl).2 ⟨_, h', rfl⟩⟩,
      (hadas rfl).2 ⟨_, h'', rfl⟩⟩

end Sheet

end Fitout
