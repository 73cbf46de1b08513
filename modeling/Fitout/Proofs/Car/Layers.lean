import Fitout.Car.Overrides
import Fitout.Proofs.Ends
import Fitout.Proofs.Layering
import Mathlib.Data.List.Basic

/-!
# Layers of configurations

A configuration can be the outcome of several layers: a base, updates on top of it, and the
overrides of an environment on top of these. `Car.IsLayered` says field by field which layer
counts. A mandatory field is that of the last update, an optional one that of the last update that
states it, and a variable that is set comes before either.

Overrides are taken one by one, but as they are about different fields, each is read as if it were
the only one: an override changes its own field to what its text stands for and no other
(`Override.ends_apply`), and so does a run of them (`Car.ends_override`).
-/

namespace Fitout

/-- Two cars have the same in a field. -/
def Field.Same (a b : Car) : Field → Prop
  | id => a.id = b.id
  | brand => a.brand = b.brand
  | engine => a.engine = b.engine
  | camera => a.camera = b.camera
  | smartphone => a.smartphone = b.smartphone
  | adas => a.adas = b.adas

theorem Field.Same.trans {f : Field} {a b c : Car} (hab : f.Same a b) (hbc : f.Same b c) :
    f.Same a c := by
  cases f <;> exact Eq.trans hab hbc

namespace Car

variable {f g : Field} {car after : Car}

/-- Overwriting a field leaves the others as they are. -/
theorem same_of_set {v : String} (h : car.set g v = .ok after) (hne : f ≠ g) :
    f.Same car after := by
  cases g <;> obtain ⟨a, -, rfl⟩ := Except.map_eq_ok_iff.1 h <;> cases f <;>
    first
    | rfl
    | exact absurd rfl hne

/-- Clearing a field leaves the others as they are. -/
theorem same_of_unset (h : car.unset g = .ok after) (hne : f ≠ g) : f.Same car after := by
  cases g <;> cases h <;> cases f <;>
    first
    | rfl
    | exact absurd rfl hne

end Car

namespace Override

/-! ### What an override stands for -/

/-- Reads the override of a mandatory field, which cannot be cleared. -/
def mandatory {α : Type} (parse : String → Except Rejection α) (o : Override) :
    Except Rejection α :=
  if o.isBlank then .error ⟨o.field.name, .mandatory⟩ else parse o.value

/-- Reads the override of an optional field, which is cleared by a blank text. -/
def optional {α : Type} [Member α] (o : Override) : Except Rejection (Option α) :=
  if o.isBlank then .ok none else (Member.parse o.value).map some

/-- A car has in the field of an override what the override stands for. -/
def Holds (o : Override) (car : Car) : Prop :=
  match o.field with
  | .id => o.mandatory CarId.parse = .ok car.id
  | .brand => o.mandatory Brand.parse = .ok car.brand
  | .engine => o.mandatory Member.parse = .ok car.engine
  | .camera => o.optional = .ok car.camera
  | .smartphone => o.optional = .ok car.smartphone
  | .adas => o.optional = .ok car.adas

/-- Why an override is refused, if it is. -/
def refusals (o : Override) : List Rejection :=
  (match o.field with
    | .id => failures (o.mandatory CarId.parse)
    | .brand => failures (o.mandatory Brand.parse)
    | .engine => failures (o.mandatory (Member.parse (α := Engine)))
    | .camera => failures (o.optional (α := Camera))
    | .smartphone => failures (o.optional (α := Smartphone))
    | .adas => failures (o.optional (α := Adas))).map o.blame

/-- What a car has in the field of an override is what every car has that is the same there. -/
theorem Holds.congr {o : Override} {a b : Car} (ha : o.Holds a) (h : o.field.Same a b) :
    o.Holds b := by
  obtain ⟨f, v⟩ := o
  cases f <;> exact Eq.trans ha (congrArg Except.ok h)

/-! ### One override, and a run of them -/

section Apply

variable {α : Type} (o : Override) (car : Car)

/-- An override leaves the other fields as they are. -/
theorem same_of_apply {o : Override} {car after : Car} (h : o.apply car = .ok after) {f : Field}
    (hne : f ≠ o.field) : f.Same car after := by
  rw [apply, Except.mapError_eq_ok_iff] at h
  split at h
  · exact Car.same_of_unset h hne
  · exact Car.same_of_set h hne

/-- An override of a mandatory field, given that `put` puts what it reads into this field. -/
theorem holds_mandatory (parse : String → Except Rejection α) (put : α → Car)
    (hunset : car.unset o.field = .error ⟨o.field.name, .mandatory⟩)
    (hset : car.set o.field o.value = (parse o.value).map put)
    (hput : ∀ a, o.mandatory parse = .ok a → o.Holds (put a)) :
    Ends o.Holds (o.apply car) ((failures (o.mandatory parse)).map o.blame) := by
  have happly : o.apply car = ((o.mandatory parse).map put).mapError o.blame := by
    rw [apply, mandatory, hunset, hset]
    split <;> rfl
  rw [happly]
  exact ((Ends.self _).map hput).mapError _

/-- An override of an optional field, given that `put` puts what it reads into this field. -/
theorem holds_optional [Member α] (put : Option α → Car)
    (hunset : car.unset o.field = .ok (put none))
    (hset : car.set o.field o.value = (Member.parse o.value).map fun m ↦ put (some m))
    (hput : ∀ m, o.optional = .ok m → o.Holds (put m)) :
    Ends o.Holds (o.apply car) ((failures (o.optional (α := α))).map o.blame) := by
  have happly : o.apply car = (o.optional.map put).mapError o.blame := by
    rw [apply, optional, hunset, hset]
    split
    · rfl
    · rcases (Member.parse o.value : Except Rejection α) with r | m <;> rfl
  rw [happly]
  exact ((Ends.self _).map hput).mapError _

end Apply

/-- An override gives its own field what it stands for, or is refused for its text. -/
theorem holds_apply (o : Override) (car : Car) : Ends o.Holds (o.apply car) o.refusals := by
  obtain ⟨f, v⟩ := o
  cases f with
  | id =>
    exact holds_mandatory ⟨.id, v⟩ car CarId.parse (fun a ↦ { car with id := a }) rfl rfl
      fun _ ↦ id
  | brand =>
    exact holds_mandatory ⟨.brand, v⟩ car Brand.parse (fun a ↦ { car with brand := a }) rfl rfl
      fun _ ↦ id
  | engine =>
    exact holds_mandatory ⟨.engine, v⟩ car Member.parse (fun a ↦ { car with engine := a }) rfl rfl
      fun _ ↦ id
  | camera =>
    exact holds_optional ⟨.camera, v⟩ car (fun m ↦ { car with camera := m }) rfl rfl fun _ ↦ id
  | smartphone =>
    exact holds_optional ⟨.smartphone, v⟩ car (fun m ↦ { car with smartphone := m }) rfl rfl
      fun _ ↦ id
  | adas =>
    exact holds_optional ⟨.adas, v⟩ car (fun m ↦ { car with adas := m }) rfl rfl fun _ ↦ id

/-- An override changes its own field and no other, or is refused for its text. -/
theorem ends_apply (o : Override) (car : Car) :
    Ends (fun after ↦ o.Holds after ∧ ∀ f ≠ o.field, f.Same car after) (o.apply car) o.refusals :=
  (o.holds_apply car).and_eq.mono fun _ h ↦ ⟨h.1, fun _ hne ↦ same_of_apply h.2 hne⟩

end Override

/-- A run of overrides of different fields changes each of these and no other field, or ends with
the first of them that is refused. -/
theorem Car.ends_override (os : List Override) (hd : (os.map (·.field)).Nodup) (car : Car) :
    Ends (fun after ↦ (∀ o ∈ os, o.Holds after) ∧ ∀ f ∉ os.map (·.field), f.Same car after)
      (car.override os) (os.flatMap Override.refusals) := by
  induction os generalizing car with
  | nil => exact .value ⟨by simp, fun f _ ↦ by cases f <;> rfl⟩
  | cons o os ih =>
    rw [List.map_cons, List.nodup_cons] at hd
    obtain ⟨hnew, hd⟩ := hd
    rw [List.flatMap_cons]
    refine (o.ends_apply car).bind fun next hnext ↦ (ih hd next).mono fun after hafter ↦ ?_
    constructor
    · intro p hp
      rcases List.mem_cons.1 hp with rfl | hp
      -- The later overrides are of other fields, so this one still holds.
      · exact hnext.1.congr (hafter.2 p.field hnew)
      · exact hafter.1 p hp
    · intro f hf
      rw [List.map_cons, List.mem_cons, not_or] at hf
      exact (hnext.2 f hf.1).trans (hafter.2 f hf.2)

/-! ### The overrides of an environment -/

namespace Environment

variable {env : Environment} {o : Override}

/-- The overrides of an environment are the variables that are set. -/
theorem mem_overrides : o ∈ env.overrides ↔ env.get? o.field.variableName = some o.value := by
  obtain ⟨f, v⟩ := o
  simp only [overrides, List.mem_filterMap, Option.map_eq_some_iff, Override.mk.injEq]
  constructor
  · rintro ⟨g, -, w, hw, rfl, rfl⟩
    exact hw
  · intro h
    exact ⟨f, f.mem_all, v, h, rfl, rfl⟩

theorem nodup_overrides (env : Environment) : (env.overrides.map (·.field)).Nodup := by
  have hall : Field.all.Nodup := by decide
  rw [overrides, List.Nodup, List.pairwise_map, List.pairwise_filterMap]
  refine hall.imp fun {f g} hne o ho p hp ↦ ?_
  obtain ⟨v, -, rfl⟩ := Option.map_eq_some_iff.1 ho
  obtain ⟨w, -, rfl⟩ := Option.map_eq_some_iff.1 hp
  exact hne

/-- Why the variables of an environment are refused, in the order of the fields. -/
def refusals (env : Environment) : List Rejection :=
  env.overrides.flatMap Override.refusals

end Environment

/-! ### All layers -/

namespace Car

/-- A mandatory field is that of its variable, if this is set, and else that of the last update. -/
def Uppermost {α : Type} (parse : String → Except Rejection α) (get : Car → α) (f : Field)
    (env : Environment) (updates : List Car) (car : Car) : Prop :=
  match env.get? f.variableName with
  | some v => Override.mandatory parse ⟨f, v⟩ = .ok (get car)
  | none => updates.getLast?.map get = some (get car)

/-- An optional field is that of its variable, if this is set, and else that of the last update
that states it; if none does, it is that of the base. -/
def UppermostStated {α : Type} [Member α] (get : Car → Option α) (f : Field) (env : Environment)
    (base : Car) (updates : List Car) (car : Car) : Prop :=
  match env.get? f.variableName with
  | some v => Override.optional ⟨f, v⟩ = .ok (get car)
  | none => get car = (updates.reverse.findSome? get).or (get base)

/-- A configuration is the outcome of a base, of updates and of the variables of an environment,
each on top of those before. -/
structure IsLayered (env : Environment) (base : Car) (updates : List Car) (car : Car) : Prop where
  id : Uppermost CarId.parse Car.id .id env updates car
  brand : Uppermost Brand.parse Car.brand .brand env updates car
  engine : Uppermost Member.parse Car.engine .engine env updates car
  camera : UppermostStated Car.camera .camera env base updates car
  smartphone : UppermostStated Car.smartphone .smartphone env base updates car
  adas : UppermostStated Car.adas .adas env base updates car

section

variable {env : Environment} {base merged car other : Car} {updates : List Car} {f : Field}

theorem Uppermost.unique {α : Type} {parse : String → Except Rejection α} {get : Car → α}
    (h : Uppermost parse get f env updates car) (h' : Uppermost parse get f env updates other) :
    get car = get other := by
  unfold Uppermost at h h'
  rcases hv : env.get? f.variableName with - | v
  · simp only [hv] at h h'
    exact Option.some.inj (h.symm.trans h')
  · simp only [hv] at h h'
    exact Except.ok.inj (h.symm.trans h')

theorem UppermostStated.unique {α : Type} [Member α] {get : Car → Option α}
    (h : UppermostStated get f env base updates car)
    (h' : UppermostStated get f env base updates other) : get car = get other := by
  unfold UppermostStated at h h'
  rcases hv : env.get? f.variableName with - | v
  · simp only [hv] at h h'
    exact h.trans h'.symm
  · simp only [hv] at h h'
    exact Except.ok.inj (h.symm.trans h')

/-- The layers leave nothing open. -/
theorem IsLayered.unique (h : IsLayered env base updates car)
    (h' : IsLayered env base updates other) : car = other := by
  obtain ⟨id, brand, engine, camera, smartphone, adas⟩ := car
  rw [Car.mk.injEq]
  exact ⟨h.id.unique h'.id, h.brand.unique h'.brand, h.engine.unique h'.engine,
    h.camera.unique h'.camera, h.smartphone.unique h'.smartphone, h.adas.unique h'.adas⟩

theorem Uppermost.of_merged {α : Type} {parse : String → Except Rejection α} {get : Car → α}
    (hmerged : updates.getLast?.map get = some (get merged))
    (h : match env.get? f.variableName with
      | some v => Override.mandatory parse ⟨f, v⟩ = .ok (get car)
      | none => get merged = get car) :
    Uppermost parse get f env updates car := by
  unfold Uppermost
  split at h
  · exact h
  · rw [hmerged, h]

theorem UppermostStated.of_merged {α : Type} [Member α] {get : Car → Option α}
    (hmerged : get merged = (updates.reverse.findSome? get).or (get base))
    (h : match env.get? f.variableName with
      | some v => Override.optional ⟨f, v⟩ = .ok (get car)
      | none => get merged = get car) :
    UppermostStated get f env base updates car := by
  unfold UppermostStated
  split at h
  · exact h
  · rw [← h, hmerged]

end

/-- The overrides of an environment change the fields of the variables that are set, and no other
field. -/
theorem ends_overrides (env : Environment) (car : Car) :
    Ends (fun after ↦ ∀ f : Field, match env.get? f.variableName with
        | some v => Override.Holds ⟨f, v⟩ after
        | none => f.Same car after)
      (car.override env.overrides) env.refusals := by
  refine (ends_override env.overrides env.nodup_overrides car).mono fun after ⟨hin, hout⟩ f ↦ ?_
  split
  next v hv => exact hin ⟨f, v⟩ (Environment.mem_overrides.2 hv)
  next hv =>
    refine hout f fun hf ↦ ?_
    obtain ⟨o, ho, rfl⟩ := List.mem_map.1 hf
    simp [Environment.mem_overrides.1 ho] at hv

/-- Merging updates and then overriding makes the configuration of all layers, or ends with the
first variable that is refused. -/
theorem ends_layers (env : Environment) (base update : Car) (updates : List Car) :
    Ends (IsLayered env base (update :: updates))
      ((base.mergeAll (update :: updates)).override env.overrides) env.refusals := by
  have hmandatory {α : Type} (get : Car → α) (hget : ∀ a b : Car, get (a.merge b) = get b) :
      (update :: updates).getLast?.map get = some (get (base.mergeAll (update :: updates))) := by
    rw [← map_getLast?_layers get hget base, List.getLast?_cons_cons]
  have hoptional {α : Type} {get : Car → Option α} (hget : Coalesces merge get) :
      get (base.mergeAll (update :: updates)) =
        ((update :: updates).reverse.findSome? get).or (get base) := by
    rw [mergeAll, hget.get_foldl, topmost_cons]
    rfl
  refine (ends_overrides env _).mono fun car h ↦ ?_
  exact
    { id := .of_merged (hmandatory Car.id fun _ _ ↦ rfl) (h .id)
      brand := .of_merged (hmandatory Car.brand fun _ _ ↦ rfl) (h .brand)
      engine := .of_merged (hmandatory Car.engine fun _ _ ↦ rfl) (h .engine)
      camera := .of_merged (hoptional coalesces_camera) (h .camera)
      smartphone := .of_merged (hoptional coalesces_smartphone) (h .smartphone)
      adas := .of_merged (hoptional coalesces_adas) (h .adas) }

end Car

end Fitout
