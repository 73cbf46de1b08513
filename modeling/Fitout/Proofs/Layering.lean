import Fitout.Car
import Fitout.Profile

/-!
# Layers in any grouping

A merge takes each field from the upper of two layers where it is present there, and else from the
lower one. A mandatory field is one that is always present, so the same holds of all fields: what
some layers come to has in each of them what the topmost layer has where the field is present
(`topmost`). Nothing in this refers to the way in which the layers are grouped, and a layer that
occurs again further up never decides. So the outcome of a merge depends on the order of the layers
alone (`DependsOnOrder`).

Main statement: `merge_dependsOnOrder`.
-/

namespace Fitout

/-! ### Groupings -/

/-- A way to merge layers two at a time. -/
inductive Grouping (α : Type)
  /-- A single layer, which is not merged. -/
  | layer (a : α)
  /-- Two groups, one on top of the other. -/
  | both (lower upper : Grouping α)

namespace Grouping

variable {α : Type}

/-- The layers, the lowest first. -/
def layers : Grouping α → List α
  | layer a => [a]
  | both lower upper => lower.layers ++ upper.layers

/-- What the layers come to if they are merged as they are grouped. -/
def value (merge : α → α → α) : Grouping α → α
  | layer a => a
  | both lower upper => merge (lower.value merge) (upper.value merge)

end Grouping

/-! ### What the topmost layer has -/

section Topmost

variable {α β : Type} {get : α → Option β}

/-- What the topmost of some layers has where it has something; the lowest layer comes first. -/
def topmost (get : α → Option β) (layers : List α) : Option β :=
  layers.reverse.findSome? get

@[simp]
theorem topmost_singleton (a : α) : topmost get [a] = get a :=
  List.findSome?_singleton

theorem topmost_append (lower upper : List α) :
    topmost get (lower ++ upper) = (topmost get upper).or (topmost get lower) := by
  rw [topmost, List.reverse_append, List.findSome?_append]
  rfl

theorem topmost_cons (a : α) (upper : List α) :
    topmost get (a :: upper) = (topmost get upper).or (get a) := by
  rw [← List.singleton_append, topmost_append, topmost_singleton]

/-- A layer that occurs again further up does not decide. -/
theorem topmost_repeated (before between after : List α) (a : α) :
    topmost get (before ++ a :: (between ++ a :: after)) =
      topmost get (before ++ (between ++ a :: after)) := by
  simp only [topmost_append, topmost_cons]
  rcases get a with - | b
  · simp
  · cases topmost get after <;> simp

/-- What every layer has is taken from the last. -/
theorem topmost_some (f : α → β) (layers : List α) :
    topmost (fun a ↦ some (f a)) layers = layers.getLast?.map f := by
  rcases List.eq_nil_or_concat layers with rfl | ⟨lower, a, rfl⟩
  · rfl
  · rw [List.concat_eq_append, topmost_append, topmost_singleton, List.getLast?_concat]
    rfl

end Topmost

/-! ### Fields that coalesce -/

section Coalesces

variable {α β : Type} {merge : α → α → α} {get : α → Option β}

/-- A field that a merge takes from the upper layer where it is present, and else from the lower. -/
def Coalesces (merge : α → α → α) (get : α → Option β) : Prop :=
  ∀ lower upper, get (merge lower upper) = (get upper).or (get lower)

theorem Coalesces.get_value (h : Coalesces merge get) (t : Grouping α) :
    get (t.value merge) = topmost get t.layers := by
  induction t with
  | layer a => exact (topmost_singleton a).symm
  | both lower upper ihLower ihUpper =>
    rw [Grouping.value, h, ihLower, ihUpper, Grouping.layers, topmost_append]

theorem Coalesces.get_foldl (h : Coalesces merge get) (base : α) (updates : List α) :
    get (updates.foldl merge base) = topmost get (base :: updates) := by
  induction updates generalizing base with
  | nil => exact (topmost_singleton base).symm
  | cons u updates ih =>
    rw [List.foldl_cons, ih, topmost_cons, h, ← Option.or_assoc, ← topmost_cons, ← topmost_cons]

/-- Values that have the same in every field that coalesces are the same. -/
def ToldByFields (merge : α → α → α) : Prop :=
  ∀ a b : α, (∀ {β : Type} (get : α → Option β), Coalesces merge get → get a = get b) → a = b

end Coalesces

/-! ### The order of the layers -/

section Order

variable {α : Type} {merge : α → α → α}

/-- What some layers come to depends on their order alone. -/
structure DependsOnOrder (merge : α → α → α) (mergeAll : α → List α → α) : Prop where
  /-- It does not depend on how they are grouped. -/
  grouping : ∀ (t : Grouping α) (base : α) (updates : List α), t.layers = base :: updates →
    t.value merge = mergeAll base updates
  /-- Nor does it depend on a layer that occurs again further up. -/
  repetition : ∀ (before between after : List α) (a base base' : α) (updates updates' : List α),
    base :: updates = before ++ a :: (between ++ a :: after) →
      base' :: updates' = before ++ (between ++ a :: after) →
        mergeAll base updates = mergeAll base' updates'

theorem ToldByFields.foldl_eq (h : ToldByFields merge) {base base' : α} {updates updates' : List α}
    (hfields : ∀ {β : Type} (get : α → Option β), Coalesces merge get →
      topmost get (base :: updates) = topmost get (base' :: updates')) :
    updates.foldl merge base = updates'.foldl merge base' := by
  refine h _ _ fun get hget ↦ ?_
  rw [hget.get_foldl, hget.get_foldl, hfields get hget]

theorem ToldByFields.dependsOnOrder (h : ToldByFields merge) :
    DependsOnOrder merge fun base updates ↦ updates.foldl merge base where
  grouping t base updates hlayers := by
    refine h _ _ fun get hget ↦ ?_
    rw [hget.get_value, hget.get_foldl, hlayers]
  repetition before between after a base base' updates updates' hlayers hlayers' := by
    refine h.foldl_eq fun get _ ↦ ?_
    rw [hlayers, hlayers', topmost_repeated]

/-- A layer that is neutral on both sides makes no difference, wherever it is put in. -/
theorem foldl_insert {e : α} (hlower : ∀ a, merge e a = a) (hupper : ∀ a, merge a e = a)
    {before after : List α} {base base' : α} {updates updates' : List α}
    (hlayers : base :: updates = before ++ after)
    (hlayers' : base' :: updates' = before ++ e :: after) :
    updates'.foldl merge base' = updates.foldl merge base := by
  cases before with
  | nil =>
    obtain ⟨rfl, rfl⟩ := List.cons.inj hlayers'
    rw [List.nil_append] at hlayers
    rw [← hlayers, List.foldl_cons, hlower]
  | cons b before =>
    rw [List.cons_append] at hlayers hlayers'
    obtain ⟨rfl, rfl⟩ := List.cons.inj hlayers
    obtain ⟨rfl, rfl⟩ := List.cons.inj hlayers'
    rw [List.foldl_append, List.foldl_cons, hupper, ← List.foldl_append]

end Order

/-! ### Cars and profiles -/

namespace Car

theorem coalesces_mandatory {α : Type} (get : Car → α)
    (hget : ∀ base update : Car, get (base.merge update) = get update) :
    Coalesces merge fun car ↦ some (get car) :=
  fun base update ↦ congrArg some (hget base update)

theorem coalesces_camera : Coalesces merge camera :=
  fun _ _ ↦ Option.orElse_eq_or

theorem coalesces_smartphone : Coalesces merge smartphone :=
  fun _ _ ↦ Option.orElse_eq_or

theorem coalesces_adas : Coalesces merge adas :=
  fun _ _ ↦ Option.orElse_eq_or

theorem toldByFields_merge : ToldByFields merge := by
  intro a b h
  obtain ⟨id, brand, engine, camera, smartphone, adas⟩ := a
  rw [Car.mk.injEq]
  exact ⟨Option.some.inj (h _ (coalesces_mandatory Car.id fun _ _ ↦ rfl)),
    Option.some.inj (h _ (coalesces_mandatory Car.brand fun _ _ ↦ rfl)),
    Option.some.inj (h _ (coalesces_mandatory Car.engine fun _ _ ↦ rfl)),
    h _ coalesces_camera, h _ coalesces_smartphone, h _ coalesces_adas⟩

/-- The mandatory fields of a car are those of the last of some layers, and the optional ones those
of the topmost layer that states them. -/
structure IsTopmost (layers : List Car) (car : Car) : Prop where
  id : layers.getLast?.map Car.id = some car.id
  brand : layers.getLast?.map Car.brand = some car.brand
  engine : layers.getLast?.map Car.engine = some car.engine
  camera : car.camera = topmost Car.camera layers
  smartphone : car.smartphone = topmost Car.smartphone layers
  adas : car.adas = topmost Car.adas layers

/-- What every layer has is taken from the last. -/
theorem map_getLast?_layers {α : Type} (get : Car → α)
    (hget : ∀ base update : Car, get (base.merge update) = get update) (base : Car)
    (updates : List Car) :
    (base :: updates).getLast?.map get = some (get (base.mergeAll updates)) := by
  rw [← topmost_some]
  exact ((coalesces_mandatory get hget).get_foldl base updates).symm

theorem isTopmost_mergeAll (base : Car) (updates : List Car) :
    IsTopmost (base :: updates) (base.mergeAll updates) where
  id := map_getLast?_layers Car.id (fun _ _ ↦ rfl) base updates
  brand := map_getLast?_layers Car.brand (fun _ _ ↦ rfl) base updates
  engine := map_getLast?_layers Car.engine (fun _ _ ↦ rfl) base updates
  camera := coalesces_camera.get_foldl base updates
  smartphone := coalesces_smartphone.get_foldl base updates
  adas := coalesces_adas.get_foldl base updates

end Car

namespace Profile

theorem coalesces_id : Coalesces merge id :=
  fun _ _ ↦ Option.orElse_eq_or

theorem coalesces_name : Coalesces merge name :=
  fun _ _ ↦ Option.orElse_eq_or

theorem toldByFields_merge : ToldByFields merge := by
  intro a b h
  obtain ⟨id, name⟩ := a
  rw [Profile.mk.injEq]
  exact ⟨h _ coalesces_id, h _ coalesces_name⟩

/-- The fields of a profile are those of the topmost of some layers that states them. -/
structure IsTopmost (layers : List Profile) (p : Profile) : Prop where
  id : p.id = topmost Profile.id layers
  name : p.name = topmost Profile.name layers

theorem isTopmost_mergeAll (base : Profile) (updates : List Profile) :
    IsTopmost (base :: updates) (base.mergeAll updates) where
  id := coalesces_id.get_foldl base updates
  name := coalesces_name.get_foldl base updates

end Profile

/-- **Merging depends on the order of the layers alone.** Of cars and of profiles alike, every
grouping of some layers comes to what merging them one after the other does, which has each field
from the last layer, or from the topmost one that states it; and a layer that occurs again further
up can be left out. The profile that states nothing can be put in anywhere. -/
theorem merge_dependsOnOrder :
    (DependsOnOrder Car.merge Car.mergeAll ∧
      ∀ (base : Car) (updates : List Car),
        Car.IsTopmost (base :: updates) (base.mergeAll updates)) ∧
    (DependsOnOrder Profile.merge Profile.mergeAll ∧
      ∀ (base : Profile) (updates : List Profile),
        Profile.IsTopmost (base :: updates) (base.mergeAll updates)) ∧
    ∀ (before after : List Profile) (base base' : Profile) (updates updates' : List Profile),
      base :: updates = before ++ after → base' :: updates' = before ++ .empty :: after →
        base'.mergeAll updates' = base.mergeAll updates :=
  ⟨⟨Car.toldByFields_merge.dependsOnOrder, Car.isTopmost_mergeAll⟩,
    ⟨Profile.toldByFields_merge.dependsOnOrder, Profile.isTopmost_mergeAll⟩,
    fun _ _ _ _ _ _ ↦ foldl_insert Profile.empty_merge Profile.merge_empty⟩

/-- Three layers grouped from the right, the first of which occurs again as the last. -/
theorem merge_dependsOnOrder_regrouped :
    let a : Profile := { id := some 1 }
    let b : Profile := { id := some 2, name := some "Ana" }
    let t : Grouping Profile := .both (.layer a) (.both (.layer b) (.layer a))
    t.layers = [a, b, a] ∧ t.value Profile.merge = a.mergeAll [b, a] ∧
      a.mergeAll [b, a] = b.mergeAll [a] ∧ b.mergeAll [.empty, a] = b.mergeAll [a] := by
  intro a b t
  obtain ⟨-, ⟨horder, -⟩, hempty⟩ := merge_dependsOnOrder
  exact ⟨rfl, horder.grouping t a [b, a] rfl, horder.repetition [] [b] [] a a b [b, a] [a] rfl rfl,
    hempty [b] [a] b b [a] [.empty, a] rfl rfl⟩

end Fitout
