import Fitout.Proofs.Car.Layers
import Fitout.Proofs.Car.Members
import Fitout.Proofs.Text.Numeral

/-!
# Values of fields

Every field of a car can be written as a text (`Car.value?`), and setting the field to this text
takes the field over into another car, whatever this car is (`Car.set_value`). So a car is taken
over field by field, in any order (`Car.foldl_take_eq`); in particular it is rebuilt from the raw
values of its mandatory fields and the texts of the optional ones (`Car.rebuild`).
-/

namespace Fitout

/-- The digits of a number that fits 32 bits are read as the number. -/
theorem CarId.parse_write (w : UInt32) : parse (Decimal.write w.toNat) = ofWord w := by
  have hword : Decimal.word? (Decimal.write w.toNat).toList = some w := by
    rw [Decimal.word?, Decimal.unsigned?_write]
    exact Decimal.fitWord_toNat w
  rw [parse, Decimal.trimChars_write, hword]

/-- An identifier reads back from its decimal form. -/
@[simp]
theorem CarId.parse_toString (id : CarId) : parse (toString id) = .ok id :=
  (parse_write id.value).trans (ofWord_value id)

/-! ### Fields that are the same -/

namespace Field.Same

variable {f : Field} {a b : Car}

theorem refl (f : Field) (car : Car) : f.Same car car := by
  cases f <;> rfl

theorem symm (h : f.Same a b) : f.Same b a := by
  cases f <;> exact Eq.symm h

/-- Two cars that have the same in every field are the same. -/
theorem eq_of_forall (h : ∀ f : Field, f.Same a b) : a = b := by
  obtain ⟨id, brand, engine, camera, smartphone, adas⟩ := a
  rw [Car.mk.injEq]
  exact ⟨h .id, h .brand, h .engine, h .camera, h .smartphone, h .adas⟩

end Field.Same

namespace Car

/-- The text of a field, unless the field is absent. -/
def value? (car : Car) : Field → Option String
  | .id => some (toString car.id)
  | .brand => some car.brand.text
  | .engine => some (Member.name car.engine)
  | .camera => car.camera.map Member.name
  | .smartphone => car.smartphone.map Member.name
  | .adas => car.adas.map Member.name

/-! ### Taking over fields -/

/-- A car with one field taken over from another. -/
def take (car other : Car) : Field → Car
  | .id => { car with id := other.id }
  | .brand => { car with brand := other.brand }
  | .engine => { car with engine := other.engine }
  | .camera => { car with camera := other.camera }
  | .smartphone => { car with smartphone := other.smartphone }
  | .adas => { car with adas := other.adas }

variable {car other : Car} {f g : Field}

theorem same_take (car other : Car) (f : Field) : f.Same (car.take other f) other := by
  cases f <;> rfl

theorem same_take_of_ne (h : f ≠ g) : f.Same car (car.take other g) := by
  cases f <;> cases g <;>
    first
    | rfl
    | exact absurd rfl h

/-- A car is taken over once all the fields are that differ. -/
theorem foldl_take_eq {fs : List Field} (h : ∀ f, f ∈ fs ∨ f.Same car other) :
    fs.foldl (·.take other ·) car = other := by
  induction fs generalizing car with
  | nil => exact Field.Same.eq_of_forall fun f ↦ (h f).resolve_left (List.not_mem_nil)
  | cons g fs ih =>
    refine ih fun f ↦ ?_
    by_cases hf : f = g
    · exact .inr (hf ▸ same_take car other g)
    · rcases h f with hmem | hsame
      · exact .inl ((List.mem_cons.1 hmem).resolve_left hf)
      · exact .inr ((same_take_of_ne hf).symm.trans hsame)

/-- Steps that each take over a field take over all these fields. -/
theorem foldlM_take {ε α : Type} {step : Car → α → Except ε Car} {field : α → Field}
    {steps : List α} (h : ∀ s ∈ steps, ∀ c, step c s = .ok (c.take other (field s))) (car : Car) :
    steps.foldlM step car = .ok ((steps.map field).foldl (·.take other ·) car) := by
  induction steps generalizing car with
  | nil => rfl
  | cons s steps ih =>
    rw [List.foldlM_cons, h s List.mem_cons_self]
    exact ih (fun s hs ↦ h s (List.mem_cons_of_mem _ hs)) _

/-- A field that is set to the text of another car is taken over. -/
theorem set_value {v : String} (h : other.value? f = some v) (car : Car) :
    car.set f v = .ok (car.take other f) := by
  cases f with
  | id | brand | engine =>
    cases h
    simp [set, Except.map, take]
  | camera | smartphone | adas =>
    obtain ⟨m, hm, rfl⟩ := Option.map_eq_some_iff.1 h
    simp [set, Except.map, take, hm]

theorem setNamed_name (car : Car) (f : Field) (v : String) :
    car.setNamed f.name v = (car.set f v).mapError .rejected := by
  rw [setNamed, fieldNamed, Field.ofName?_name]
  rfl

theorem unsetNamed_name (car : Car) (f : Field) :
    car.unsetNamed f.name = (car.unset f).mapError .rejected := by
  rw [unsetNamed, fieldNamed, Field.ofName?_name]
  rfl

/-! ### Rebuilding -/

/-- The optional fields that a car states, with their names and texts. -/
def stated (car : Car) : List (String × String) :=
  [Field.camera, .smartphone, .adas].filterMap fun f ↦ (car.value? f).map (f.name, ·)

theorem mem_stated {s : String × String} :
    s ∈ car.stated ↔ ∃ f : Field, f.isMandatory = false ∧ ∃ v, car.value? f = some v ∧
      (f.name, v) = s := by
  simp only [stated, List.mem_filterMap, Option.map_eq_some_iff]
  refine exists_congr fun f ↦ and_congr_left fun _ ↦ ?_
  cases f <;> simp [Field.isMandatory]

/-- A car without its optional fields. -/
def bare (car : Car) : Car :=
  { id := car.id, brand := car.brand, engine := car.engine }

theorem same_bare (h : f.isMandatory = true ∨ car.value? f = none) : f.Same car.bare car := by
  cases f with
  | id | brand | engine => rfl
  | camera | smartphone | adas =>
    simp only [Field.isMandatory, Bool.false_eq_true, false_or, value?, Option.map_eq_none_iff] at h
    exact h.symm

/-- A car is rebuilt from the raw values of its mandatory fields and, in any order, the texts of the
optional fields that it states. -/
theorem rebuild (car : Car) :
    create car.id.value car.brand.text car.engine = .ok car.bare ∧
      ∀ steps : List (String × String), steps.Perm car.stated →
        steps.foldlM (fun c s ↦ c.setNamed s.1 s.2) car.bare = .ok car := by
  constructor
  · rw [create, CarId.ofWord_value, Brand.parse_text]
    rfl
  · intro steps hperm
    let field (s : String × String) : Field := (Field.ofName? s.1).getD .id
    have hstep : ∀ s ∈ steps, ∀ c : Car, c.setNamed s.1 s.2 = .ok (c.take car (field s)) := by
      intro s hs c
      obtain ⟨f, -, v, hv, rfl⟩ := mem_stated.1 (hperm.mem_iff.1 hs)
      have hfield : field (f.name, v) = f := by simp [field, Field.ofName?_name]
      rw [setNamed_name, set_value hv, hfield]
      rfl
    rw [foldlM_take hstep]
    -- What is not set is mandatory or absent, and so it is the same already.
    refine congrArg Except.ok (foldl_take_eq fun f ↦ ?_)
    by_cases hmandatory : f.isMandatory = true
    · exact .inr (same_bare (.inl hmandatory))
    · rcases hv : car.value? f with - | v
      · exact .inr (same_bare (.inr hv))
      · refine .inl (List.mem_map.2 ⟨(f.name, v), ?_, by simp [field, Field.ofName?_name]⟩)
        exact hperm.mem_iff.2 (mem_stated.2 ⟨f, by simpa using hmandatory, v, hv, rfl⟩)

end Car

end Fitout
