import Fitout.Error
import Fitout.Proofs.Files.Path
import Fitout.Proofs.Text.Lowercase

/-!
# Formats by name and by extension

A path asks for the format that its extension names (`Format.ofPath_eq_ok_iff`). Extensions are
compared in the lower case of ASCII and names in full lower case, which is the same for the names of
formats (`Format.ofLowerName?_lowercaseAll`). Main statement: `Format.ofPath_follows_parse`.
-/

namespace Fitout

/-- A path asks for a format if it has a file name with an extension and the extension is a text
that reads as the format. -/
def Path.AsksFor (p : Path) (f : Format) : Prop :=
  ∃ name e, Names p.bytes name ∧ HasExtension name (Text.bytes e) ∧ Format.parse e = .ok f

namespace Format

variable {p q : Path} {f : Format}

/-! ### Names of formats -/

/-- Full lower case finds no more names than the lower case of ASCII. -/
theorem ofLowerName?_lowercaseAll (cs : List Char) :
    ofLowerName? (Text.lowercaseAll cs) = ofLowerName? (cs.map Char.toLower) := by
  have hword (word : List Char) (h : word.all (fun d ↦ d.toNat < 0x80 && d != 'k') = true) :
      (Text.lowercaseAll cs = word) = (cs.map Char.toLower = word) :=
    propext (Text.lowercaseAll_eq_iff fun d hd ↦ by simpa using List.all_eq_true.1 h d hd)
  rw [ofLowerName?, ofLowerName?]
  simp only [hword "yaml".toList (by decide), hword "yml".toList (by decide),
    hword "json".toList (by decide)]

theorem parse_eq_ok_iff {s : String} :
    parse s = .ok f ↔ ofLowerName? (s.toList.map Char.toLower) = some f := by
  rw [parse, ofName?, ofLowerName?_lowercaseAll]
  split <;> simp [*]

/-! ### Formats of paths -/

theorem ofPath?_eq_some_iff : ofPath? p = some f ↔ p.AsksFor f := by
  simp only [ofPath?, Path.extension?, Option.bind_eq_some_iff, Path.fileName?_eq_some_iff,
    Path.extensionOf?_eq_some_iff, Text.ofBytes?_eq_some_iff, Path.AsksFor, parse_eq_ok_iff]
  constructor
  · rintro ⟨e, ⟨_, ⟨name, hname, he⟩, rfl⟩, hf⟩
    exact ⟨name, e, hname, he, hf⟩
  · rintro ⟨name, e, hname, he, hf⟩
    exact ⟨e, ⟨_, ⟨name, hname, he⟩, rfl⟩, hf⟩

theorem ofPath_eq_ok_iff : ofPath p = .ok f ↔ p.AsksFor f := by
  rw [← ofPath?_eq_some_iff, ofPath]
  split <;> simp [*]

/-- A path that asks for no format is refused, and named as it was written. -/
theorem ofPath_eq_error_iff {r : Error} :
    ofPath p = .error r ↔ r = .unsupported p ∧ ∀ f, ¬p.AsksFor f := by
  simp only [← ofPath?_eq_some_iff, ofPath]
  split
  next f hf => simp [hf]
  next hnone => simp [hnone, eq_comm]

/-- Paths with the same file name, or with none, ask for the same. -/
theorem asksFor_congr (h : ∀ name, Path.Names p.bytes name ↔ Path.Names q.bytes name) :
    p.AsksFor f ↔ q.AsksFor f := by
  simp only [Path.AsksFor, h]

/-- The format of a path is the one that its extension reads as, and without such an extension the
path is refused. So it depends on nothing but the file name, whatever directory stands before it. -/
theorem ofPath_follows_parse (p : Path) :
    (∀ f, ofPath p = .ok f ↔ p.AsksFor f) ∧
    (∀ r, ofPath p = .error r ↔ r = .unsupported p ∧ ∀ f, ¬p.AsksFor f) ∧
    (∀ q : Path, (∀ name, Path.Names p.bytes name ↔ Path.Names q.bytes name) →
      ∀ f, ofPath p = .ok f ↔ ofPath q = .ok f) ∧
    ∀ name, Path.Names p.bytes name → ∀ (dir : List UInt8) (f : Format),
      ofPath ⟨dir ++ Path.slash :: p.bytes⟩ = .ok f ↔ ofPath p = .ok f := by
  have hcongr {p q : Path}
      (h : ∀ name, Path.Names p.bytes name ↔ Path.Names q.bytes name) (f : Format) :
      ofPath p = .ok f ↔ ofPath q = .ok f := by
    rw [ofPath_eq_ok_iff, ofPath_eq_ok_iff, asksFor_congr h]
  refine ⟨fun _ ↦ ofPath_eq_ok_iff, fun _ ↦ ofPath_eq_error_iff, fun _ ↦ hcongr, ?_⟩
  intro name hname dir
  refine hcongr fun other ↦ ?_
  have hprepend : Path.Names (dir ++ Path.slash :: p.bytes) name := hname.prepend dir
  constructor
  · intro h
    exact hprepend.unique h ▸ hname
  · intro h
    exact hname.unique h ▸ hprepend

end Format

end Fitout
