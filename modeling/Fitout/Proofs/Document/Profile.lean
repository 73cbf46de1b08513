import Fitout.Proofs.Document.Shown
import Fitout.Proofs.Json.Record
import Fitout.Proofs.Yaml.Record

/-!
# Profiles through documents

A written profile is read back as itself, in either format and in either layout of JSON. Both of
its fields are optional, and its name may be any text at all: a name that is empty, or spells
nothing or a number, or runs over several lines is a name still, and a field that was left out
stays absent.

Main statement: `Profile.decode_write`.
-/

namespace Fitout.Profile

/-- An outline that shows the entries of a profile is read as the profile. -/
theorem read_of_shows {p : Profile} {o : Outline} (h : o.Shows p.entries) :
    shape.read o = .ok p := by
  obtain ⟨es, rfl, hes⟩ := h
  have hes : List.Forall₂ Entry.Shows es
      ((p.id.map fun n ↦ ("id", Scalar.number n)).toList ++
        ((p.name.map fun s ↦ ("name", Scalar.text s)).toList ++ [])) := by
    simpa [entries] using hes
  obtain ⟨es, seen, hes, hseen, hid⟩ := Shape.readEntries_optional shape (.closed true) [] {} p.id
    (fun n q ↦ { q with id := some n }) hes rfl (by decide)
    fun n w hn ↦ congrArg (Except.map _) (Node.optional_eq_some hn.1 hn.2)
  obtain ⟨es, _, hes, -, hname⟩ := Shape.readEntries_optional shape (.closed true) seen _ p.name
    (fun s q ↦ { q with name := some s }) hes rfl (fun h ↦ absurd (hseen h) (by decide))
    fun n s hn ↦ congrArg (Except.map _) (Node.optional_eq_some hn.1 hn.2)
  cases hes
  show shape.readEntries (.closed true) _ [] {} = _
  rw [hid, hname]
  obtain ⟨id, name⟩ := p
  cases id <;> cases name <;> rfl

/-- A document whose outline shows the entries of a profile is read as that profile. -/
theorem decode_of_shows {f : Format} {s : String} {p : Profile}
    (h : (f.outline s).Shows p.entries) : decode f s = .ok p :=
  congrArg (Except.mapError _) (read_of_shows h)

/-- Every field of a profile can stand in a record. -/
theorem writableField_entries (p : Profile) : ∀ field ∈ p.entries, Yaml.WritableField field := by
  have hid : Yaml.IsKey "id".toList := ⟨by decide, List.all_eq_true.1 (by decide), by decide⟩
  have hname : Yaml.IsKey "name".toList := ⟨by decide, List.all_eq_true.1 (by decide), by decide⟩
  simp only [entries, List.mem_append, Option.mem_toList, Option.map_eq_some_iff]
  rintro field (⟨n, -, rfl⟩ | ⟨s, -, rfl⟩)
  · exact ⟨hid⟩
  · exact ⟨hname⟩

/-- The outline of a written profile shows its entries, in either format. -/
theorem outline_writeRecord (f : Format) (p : Profile) :
    (f.outline (f.writeRecord p.entries)).Shows p.entries := by
  cases f with
  | yaml =>
    by_cases hnil : p.entries = []
    · rw [hnil]
      exact Yaml.outline_writeRecord_nil
    · exact Yaml.outline_writeRecord hnil p.writableField_entries
  | json => exact Json.outline_writePretty p.entries

/-- A profile that is written is read as itself: whatever its name is, it is neither lost nor
changed, and no field comes up that was absent. -/
theorem decode_write (p : Profile) :
    (∀ f : Format, decode f (f.writeRecord p.entries) = .ok p) ∧
      decode .json (Json.writeCompact p.entries) = .ok p :=
  ⟨fun f ↦ decode_of_shows (outline_writeRecord f p),
    decode_of_shows (Json.outline_writeCompact p.entries)⟩

end Fitout.Profile
