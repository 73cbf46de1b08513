import Fitout.Proofs.Car.Drafts
import Fitout.Proofs.Car.Values
import Fitout.Session

/-!
# What can be obtained

The cars that a caller can obtain are those that the raw values allow: each of them is valid and can
be made again from its own raw values (`Car.obtained_sound`), and each car that is valid can be
obtained (`Car.exists_obtained`). That every operation keeps to valid cars is the content of the
types of their parts, whose values cannot be had without the proofs that they carry; what is left to
show is that the readers of raw values take back what they gave.
-/

namespace Fitout

namespace Car

/-- What holds of a car, told in raw values. -/
structure IsSound (car : Car) : Prop where
  /-- The identifier is a positive number of 32 bits. -/
  id : 1 ≤ car.id.value.toNat ∧ car.id.value.toNat ≤ 4294967295
  /-- The brand is not empty. -/
  nonempty : car.brand.text ≠ ""
  /-- No blanks stand around the brand. -/
  trimmed : Text.trim car.brand.text = car.brand.text
  /-- The brand has no control characters. -/
  printable : ∀ c ∈ car.brand.text.toList, Text.isControl c = false
  /-- The brand has at most 64 characters. -/
  short : car.brand.text.length ≤ 64
  /-- The car is made again from its raw values: the mandatory ones first and then the texts of the
  optional ones, in any order. -/
  rebuilt : ∃ base, create car.id.value car.brand.text car.engine = .ok base ∧
    ∀ steps : List (String × String), steps.Perm car.stated →
      steps.foldlM (fun c s ↦ c.setNamed s.1 s.2) base = .ok car

theorem isSound (car : Car) : car.IsSound where
  id := ⟨UInt32.le_iff_toNat_le.1 car.id.positive, by
    have := car.id.value.toNat_lt_size
    simp only [UInt32.size] at this
    omega⟩
  nonempty := fun h ↦ car.brand.nonempty (by simp [h])
  trimmed := car.brand.trimmed
  printable := car.brand.printable
  short := car.brand.short
  rebuilt := ⟨car.bare, car.rebuild⟩

/-- Every car that is obtained in a run of operations is valid and is made again from its own raw
values. -/
theorem obtained_sound (ops : List Operation) : ∀ car ∈ obtained ops, car.IsSound :=
  fun car _ ↦ car.isSound

/-- A car that is made, and changed after two operations that failed. -/
theorem obtained_sound_edited :
    let ops : List Operation :=
      [.create 7 "  Audi " .diesel, .create 0 "Audi" .diesel, .parse .yaml "id: 7",
        .edit 0 [.setNamed "camera" "REAR", .setNamed "id" "0"]]
    ∃ car ∈ obtained ops, car.camera = some .rear ∧ car.IsSound := by
  intro ops
  have hcamera : (obtained ops)[1]?.bind Car.camera = some .rear := by decide +kernel
  obtain ⟨car, hcar, hrear⟩ := Option.bind_eq_some_iff.1 hcamera
  have hmem : car ∈ obtained ops := List.mem_of_getElem? hcar
  exact ⟨car, hmem, hrear, obtained_sound ops car hmem⟩

/-! ### Every car can be obtained -/

/-- Fields that are set one after the other, all of them with success, are set by a run of edits. -/
theorem edit_eq_of_foldlM {steps : List (String × String)} {car after : Car}
    (h : steps.foldlM (fun c s ↦ c.setNamed s.1 s.2) car = .ok after) :
    car.edit (steps.map fun s ↦ .setNamed s.1 s.2) = after := by
  induction steps generalizing car with
  | nil =>
    cases h
    rfl
  | cons s steps ih =>
    rw [List.foldlM_cons, Except.bind_eq_ok_iff] at h
    obtain ⟨next, hnext, h⟩ := h
    have hstep : (Program.answer (Edit.setNamed s.1 s.2).perform car).2 = next := by
      rw [Edit.perform, Draft.answer_setNamed, hnext]
      rfl
    show (Program.answer (Edit.setNamed s.1 s.2).perform car).2.edit _ = after
    rw [hstep]
    exact ih h

/-- The operations that make a car from its raw values. -/
def recipe (car : Car) : List Operation :=
  [.create car.id.value car.brand.text car.engine,
    .edit 0 (car.stated.map fun s ↦ .setNamed s.1 s.2)]

/-- Every car can be obtained. -/
theorem mem_obtained_recipe (car : Car) : car ∈ obtained car.recipe := by
  obtain ⟨hcreate, hsteps⟩ := car.rebuild
  have hedit : car.bare.edit (car.stated.map fun s ↦ .setNamed s.1 s.2) = car :=
    edit_eq_of_foldlM (hsteps car.stated (List.Perm.refl _))
  have hbare : Operation.extend [] (.create car.id.value car.brand.text car.engine) =
      [car.bare] := by
    rw [Operation.extend, Operation.car?, hcreate]
    rfl
  show car ∈ Operation.extend (Operation.extend [] _) _
  rw [hbare]
  show car ∈ [car.bare, car.bare.edit _]
  rw [hedit]
  exact List.mem_cons_of_mem _ List.mem_cons_self

end Car

end Fitout
