import Fitout.Proofs.Document.Shown
import Fitout.Proofs.Json.Record
import Fitout.Proofs.Yaml.Record

/-!
# Cars through documents

A rendered car is read back as itself, in either format. What is rendered is a record whose keys
are words, so that both formats can show it whatever its values are.

Main statements: `Car.ofDocument_render_yaml`, `Car.ofDocument_render_json`.
-/

namespace Fitout

theorem Field.isKey (f : Field) : Yaml.IsKey f.name.toList := by
  cases f <;> exact ⟨by decide, List.all_eq_true.1 (by decide), by decide⟩

namespace Car

/-- Every field of a car can stand in a record. -/
theorem writableField_entries (car : Car) :
    ∀ field ∈ car.entries, Yaml.WritableField field := by
  simp only [entries, List.mem_append, List.mem_cons, List.not_mem_nil, or_false,
    Option.mem_toList, Option.map_eq_some_iff]
  rintro field ((((rfl | rfl | rfl) | ⟨m, -, rfl⟩) | ⟨m, -, rfl⟩) | ⟨m, -, rfl⟩)
  · exact ⟨Field.id.isKey⟩
  · exact ⟨Field.brand.isKey⟩
  · exact ⟨Field.engine.isKey⟩
  · exact ⟨Field.camera.isKey⟩
  · exact ⟨Field.smartphone.isKey⟩
  · exact ⟨Field.adas.isKey⟩

/-- The outline of a rendered car shows its entries, in either format. -/
theorem outline_render (f : Format) (car : Car) : (f.outline (car.render f)).Shows car.entries := by
  have hne : car.entries ≠ [] := by simp [entries]
  cases f with
  | yaml => exact Yaml.outline_writeRecord hne car.writableField_entries
  | json => exact Json.outline_writePretty car.entries

/-- A car that is rendered in YAML is read as itself. -/
theorem ofDocument_render_yaml (car : Car) : ofDocument .yaml (car.render .yaml) = .ok car := by
  have hne : car.entries ≠ [] := by simp [entries]
  exact ofDocument_of_shows (Yaml.outline_writeRecord hne car.writableField_entries)

/-- A car that is rendered in JSON is read as itself. -/
theorem ofDocument_render_json (car : Car) : ofDocument .json (car.render .json) = .ok car :=
  ofDocument_of_shows (Json.outline_writePretty car.entries)

end Car

end Fitout
