import Fitout.Proofs.Yaml.Printable
import Fitout.Proofs.Yaml.Value

/-!
# YAML records

A record is a text of lines, each a key with a value that is found as a scalar (`RecordText`). The
start of the record stands in front of the first key; from then on every line takes the reader
through a key and a value and back to the next key (`Reader.run_field`), so an induction over the
lines gives all parts of the document (`Reader.run_recordText`), and with them its outline
(`outline_of_recordText`). A written record is such a text, and its outline shows its fields.

Main statements: `outline_of_recordText`, `outline_writeRecord`.
-/

namespace Fitout.Yaml

namespace Reader

variable {r : Reader} {l' : Lexer} {t : Token} {ts : List Token} {style : Style}
  {text : List Char}

/-! ### Tokens -/

theorem peek_of_holds (h : r.lexer.Holds (t :: ts) l') : r.peek = some (t, r) := by
  have hpeek : r.lexer.peek = some (t, r.lexer) := by
    rw [Lexer.peek, Lexer.bound, h.fill_succ]
    simp [h.queue]
  rw [peek, hpeek]
  rfl

theorem peek_of_finds (h : r.lexer.Finds (t :: ts) l') :
    ∃ r' : Reader, r.peek = some (t, r') ∧ r'.lexer.Holds (t :: ts) l' := by
  obtain ⟨l₁, hpeek, hholds⟩ := h.peek
  refine ⟨{ r with lexer := l₁ }, ?_, hholds⟩
  rw [peek, hpeek]
  rfl

/-! ### Nodes -/

theorem node_of_holds {block entries : Bool} {n : Node} {inside : List Stage}
    (h : r.lexer.Holds (t :: ts) l')
    (hnode : nodeOf block entries none t = some (n, true, inside)) :
    r.node block entries = some (n, inside, r.skip) := by
  have hpeek := peek_of_holds h
  have hproperties : r.properties = some ({}, r) := by
    rw [properties, hpeek]
    cases t with
    | anchor name | tag t => simp [nodeOf] at hnode
    | _ => rfl
  rw [node, hpeek]
  cases t with
  | reference name => simp [nodeOf] at hnode
  | _ => simp [hproperties, hpeek, hnode]

theorem enterUnless_of_finds {ends : Token → Bool} (block entries : Bool) (next : List Stage)
    (h : r.lexer.Finds (.scalar style text :: ts) l') (hends : ends (.scalar style text) = false) :
    ∃ r' : Reader, r.enterUnless ends block entries next =
        some ⟨.node (.scalar none style text), next, r'⟩ ∧ r'.lexer.Holds ts l' := by
  obtain ⟨r₁, hpeek, hholds⟩ := peek_of_finds h
  refine ⟨r₁.skip, ?_, hholds.skip⟩
  have hnode : r₁.node block entries = some (.scalar none style text, [], r₁.skip) :=
    node_of_holds hholds rfl
  simp [enterUnless, hpeek, hends, enter, hnode]

/-! ### Keys and values -/

theorem step_blockKey {key : List Char}
    (h : r.lexer.Finds (.key :: .scalar .plain key :: ts) l') :
    ∃ r' : Reader, r.step .blockKey =
        some ⟨.node (.scalar none .plain key), [.blockValue], r'⟩ ∧ r'.lexer.Holds ts l' := by
  obtain ⟨r₁, hpeek, hholds⟩ := peek_of_finds h
  have hfinds : r₁.skip.lexer.Finds (.scalar .plain key :: ts) l' := hholds.skip.finds
  have hends : endsBlockNode (.scalar .plain key) = false := rfl
  obtain ⟨r₂, henter, hholds⟩ := enterUnless_of_finds true true [.blockValue] hfinds hends
  refine ⟨r₂, ?_, hholds⟩
  rw [step, blockKey, hpeek]
  exact henter

theorem step_blockValue {l₁ : Lexer} (h : r.lexer.Holds [.value] l₁)
    (hvalue : l₁.Finds [.scalar style text] l') :
    ∃ r' : Reader, r.step .blockValue =
        some ⟨.node (.scalar none style text), [.blockKey], r'⟩ ∧ r'.lexer = l' := by
  have hfinds : r.skip.lexer.Finds [.scalar style text] l' := by
    rw [show r.skip.lexer = l₁ from h.skip.eq_of_nil]
    exact hvalue
  have hends : endsBlockNode (.scalar style text) = false := rfl
  obtain ⟨r₂, henter, hholds⟩ := enterUnless_of_finds true true [.blockKey] hfinds hends
  refine ⟨r₂, ?_, hholds.eq_of_nil⟩
  rw [step, value, peek_of_holds h]
  exact henter

/-- Where a mapping starts, its keys come next. -/
theorem step_node (h : r.lexer.Holds (.blockMappingStart :: ts) l') :
    r.step .node = some ⟨.node (.mapping none), [.blockKey], r.skip⟩ := by
  rw [step, enter, node_of_holds h rfl]
  rfl

/-- At the end of the record the document is over. -/
theorem step_blockKey_end (h : r.lexer.Finds [.blockEnd, .streamEnd] l') :
    ∃ r' : Reader, r.step .blockKey = some ⟨.close, [], r'⟩ ∧ r'.isClean = true := by
  obtain ⟨r₁, hpeek, hholds⟩ := peek_of_finds h
  refine ⟨r₁.skip, ?_, ?_⟩
  · rw [step, blockKey, hpeek]
    rfl
  · rw [isClean, Lexer.bound, endsStream, peek_of_holds hholds.skip]

end Reader

/-! ### Lines -/

/-- A key with the scalar that is its value. -/
structure KeyScalar where
  /-- The key. -/
  key : List Char
  /-- How the scalar is written. -/
  style : Style
  /-- The text of the scalar. -/
  text : List Char

namespace KeyScalar

/-- The two nodes that are read. -/
def pair (e : KeyScalar) : Node × Option Node :=
  (.scalar none .plain e.key, some (.scalar none e.style e.text))

/-- The entry that they make. -/
def entry (e : KeyScalar) : Entry :=
  Yaml.entry e.pair

end KeyScalar

/-- The lines of a record, of which the last need not end. -/
inductive RecordText : List Char → List KeyScalar → Prop
  | nil : RecordText [] []
  | cons {key line more text : List Char} {style : Style} {entries : List KeyScalar}
      (hkey : IsKey key) (hlexes : Lexes line style text) (hmore : RecordText more entries) :
      RecordText (key ++ ':' :: ' ' :: (line ++ more)) (⟨key, style, text⟩ :: entries)
  /-- A line that goes on to the end of the text. -/
  | last {key value text : List Char} {style : Style} (hkey : IsKey key)
      (hlexes : LexesLast value style text) :
      RecordText (key ++ ':' :: ' ' :: value) [⟨key, style, text⟩]

theorem IsKey.startsLine {key : List Char} (h : IsKey key) (cs : List Char) :
    StartsLine (key ++ cs) := by
  obtain ⟨c, ds, rfl⟩ := List.exists_cons_of_ne_nil h.nonempty
  rintro d ⟨⟩
  exact h.letters c List.mem_cons_self

theorem RecordText.startsLine {cs : List Char} {entries : List KeyScalar}
    (h : RecordText cs entries) : StartsLine cs := by
  cases h with
  | nil => nofun
  | cons hkey | last hkey => exact hkey.startsLine _

/-- Every line takes up a character at least. -/
theorem RecordText.length_le {cs : List Char} {entries : List KeyScalar}
    (h : RecordText cs entries) : entries.length ≤ cs.length := by
  induction h with
  | nil => exact Nat.le_refl _
  | cons _ _ _ ih =>
    simp only [List.length_append, List.length_cons]
    omega
  | last =>
    simp only [List.length_append, List.length_cons, List.length_nil]
    omega

/-- A reading of some keys with their values, up to a proper end. -/
def Reading.Gives (g : Reading) (entries : List KeyScalar) : Prop :=
  pairs g.parts = (entries.map KeyScalar.pair, true) ∧ g.ended.any (·.isClean) = true

theorem Reading.Gives.cons {g : Reading} {entries : List KeyScalar} (h : g.Gives entries)
    (e : KeyScalar) :
    ((g.cons (.node (.scalar none e.style e.text))).cons
      (.node (.scalar none .plain e.key))).Gives (e :: entries) := by
  refine ⟨?_, h.2⟩
  simp [Reading.cons, pairs, Node.isComposite, h.1, KeyScalar.pair]

namespace Reader

theorem run_step {r r' : Reader} {stage : Stage} {part : Part} {next : List Stage}
    (h : r.step stage = some ⟨part, next, r'⟩) (bound : Nat) :
    r.run (bound + 1) [stage] = (r'.run bound next).cons part := by
  rw [run, h]
  simp

/-- A line takes the reader from its key to what comes behind its value. -/
theorem run_field {r : Reader} {l' l'' : Lexer} {key text : List Char} {style : Style}
    (h : r.lexer.Finds [.key, .scalar .plain key, .value] l')
    (hvalue : l'.Finds [.scalar style text] l'') :
    ∃ r' : Reader, r'.lexer = l'' ∧ ∀ bound,
      r.run (bound + 2) [.blockKey] =
        ((r'.run bound [.blockKey]).cons (.node (.scalar none style text))).cons
          (.node (.scalar none .plain key)) := by
  obtain ⟨r₁, hkey, hholds⟩ := step_blockKey h
  obtain ⟨r₂, hvalue, hr₂⟩ := step_blockValue hholds hvalue
  refine ⟨r₂, hr₂, fun bound ↦ ?_⟩
  rw [run_step hkey, run_step hvalue]

/-- At the end of the text the record is over. -/
theorem run_end {r : Reader} (h : r.lexer.AtEnd) {bound : Nat} (hbound : 2 ≤ bound) :
    (r.run bound [.blockKey]).Gives [] := by
  obtain ⟨bound, rfl⟩ := Nat.exists_eq_add_of_le' hbound
  obtain ⟨l', hend⟩ := h.finds_end
  obtain ⟨r', hstep, hclean⟩ := step_blockKey_end hend
  rw [run_step hstep]
  exact ⟨rfl, hclean⟩

section Line

variable {r : Reader} {l' : Lexer} {key text : List Char} {style : Style}

/-- A line in front of more lines. -/
theorem run_line {line more : List Char} {entries : List KeyScalar} {bound : Nat}
    (h : r.lexer.Finds [.key, .scalar .plain key, .value] l') (hl : l'.AtValue (line ++ more))
    (hlexes : Lexes line style text) (hmore : StartsLine more)
    (hrest : ∀ r' : Reader, r'.lexer.AtLine true more → (r'.run bound [.blockKey]).Gives entries) :
    (r.run (bound + 2) [.blockKey]).Gives (⟨key, style, text⟩ :: entries) := by
  obtain ⟨l'', hfinds, hline⟩ := hlexes l' more hl hmore
  obtain ⟨r', rfl, hrun⟩ := run_field h hfinds
  rw [hrun]
  exact (hrest r' hline).cons ⟨key, style, text⟩

/-- A line that goes on to the end of the text. -/
theorem run_last {value : List Char} {bound : Nat}
    (h : r.lexer.Finds [.key, .scalar .plain key, .value] l') (hl : l'.AtValue value)
    (hlexes : LexesLast value style text) (hbound : 2 ≤ bound) :
    (r.run (bound + 2) [.blockKey]).Gives [⟨key, style, text⟩] := by
  obtain ⟨l'', hfinds, hend⟩ := hlexes l' hl
  obtain ⟨r', rfl, hrun⟩ := run_field h hfinds
  rw [hrun]
  exact (run_end hend hbound).cons ⟨key, style, text⟩

end Line

/-- The lines of a record after its first give their keys and values, one after the other. -/
theorem run_recordText {cs : List Char} {entries : List KeyScalar} (hcs : RecordText cs entries)
    {r : Reader} (h : r.lexer.AtLine true cs) {bound : Nat}
    (hbound : 2 * entries.length + 2 ≤ bound) : (r.run bound [.blockKey]).Gives entries := by
  -- A line takes two steps of the bound, and the end of the record the last two.
  induction hcs generalizing r bound with
  | nil => exact run_end h.atEnd hbound
  | cons hkey hlexes hmore ih =>
    rw [List.length_cons] at hbound
    obtain ⟨bound, rfl⟩ := Nat.exists_eq_add_of_le' (show 2 ≤ bound by omega)
    obtain ⟨l', hfinds, hl, -⟩ := h.finds_key hkey
    exact run_line hfinds hl hlexes hmore.startsLine fun r' hline ↦ ih hline (by omega)
  | last hkey hlexes =>
    rw [List.length_singleton] at hbound
    obtain ⟨bound, rfl⟩ := Nat.exists_eq_add_of_le' (show 2 ≤ bound by omega)
    obtain ⟨l', hfinds, hl, -⟩ := h.finds_key hkey
    exact run_last hfinds hl hlexes (by omega)

/-- A document that starts with a mapping goes on with its keys. -/
theorem root_ofText {s : String} {ts : List Token} {l' : Lexer}
    (h : (Lexer.ofText s).Finds (.blockMappingStart :: ts) l') :
    ∃ (r : Reader) (bound : Nat), r.lexer.Holds ts l' ∧ 32 * l'.size ≤ bound ∧
      Root.ofText s = ((r.run bound [.blockKey]).cons (.node (.mapping none))).root := by
  obtain ⟨r, hpeek, hholds⟩ := peek_of_finds (r := { lexer := Lexer.ofText s }) h
  have hsize := hholds.size_eq
  obtain ⟨bound, hbound⟩ : ∃ bound, r.bound = bound + 1 :=
    Nat.exists_eq_add_of_le' (show 1 ≤ 32 * (r.lexer.size + 3) by omega)
  refine ⟨r.skip, bound, hholds.skip, ?_, ?_⟩
  · rw [Reader.bound, Lexer.bound] at hbound
    omega
  · rw [Root.ofText, streamRoot, hpeek]
    show r.reading.root = _
    rw [reading, hbound, run_step (step_node hholds)]

end Reader

/-! ### The outline -/

/-- A reading of some keys with their values has the outline of these. -/
theorem Reading.Gives.outline_eq {g : Reading} {entries : List KeyScalar} (h : g.Gives entries) :
    (g.cons (.node (.mapping none))).root.outline =
      .record (entries.map KeyScalar.entry) (.closed true) := by
  have hroot : (g.cons (.node (.mapping none))).root =
      .mapping none ((entries.map KeyScalar.pair).map
        fun p ↦ (g.anchors.resolve p.1, p.2.map g.anchors.resolve)) (some true) := by
    simp [Reading.cons, root, h.1, h.2]
  -- A scalar is no reference, so the anchors do not matter.
  have hresolve : (entries.map KeyScalar.pair).map
      (fun p ↦ (g.anchors.resolve p.1, p.2.map g.anchors.resolve)) =
        entries.map KeyScalar.pair := by
    rw [List.map_map]
    rfl
  rw [hroot, hresolve]
  show Outline.record ((entries.map KeyScalar.pair).map Yaml.entry) _ = _
  rw [List.map_map]
  rfl

/-- The outline of a text of lines. -/
theorem outline_of_recordText {s : String} {cs : List Char} {entries : List KeyScalar}
    (hs : Cursor.ofText s.toList = { rest := cs }) (hlength : cs.length ≤ s.length)
    (h : RecordText cs entries) (hne : entries ≠ []) :
    outline s = .record (entries.map KeyScalar.entry) (.closed true) := by
  have hstart : (Lexer.ofText s).AtLine false cs := Lexer.atLine_ofText hs h.startsLine
  -- A line makes two parts, and the reader may make many more of a text that long.
  have hbound : entries.length ≤ (Lexer.ofText s).size := Nat.le_trans h.length_le hlength
  rw [outline]
  cases h with
  | nil => exact absurd rfl hne
  | @cons key line more text style entries hkey hlexes hmore =>
    obtain ⟨l', hfinds, hl, hsize⟩ := hstart.finds_key hkey
    obtain ⟨r, bound, hholds, hle, hroot⟩ := Reader.root_ofText hfinds
    rw [← hsize, List.length_cons] at hbound
    obtain ⟨bound, rfl⟩ := Nat.exists_eq_add_of_le' (show 2 ≤ bound by omega)
    rw [hroot]
    exact (Reader.run_line hholds.finds hl hlexes hmore.startsLine fun _ hline ↦
      Reader.run_recordText hmore hline (by omega)).outline_eq
  | last hkey hlexes =>
    obtain ⟨l', hfinds, hl, hsize⟩ := hstart.finds_key hkey
    obtain ⟨r, bound, hholds, hle, hroot⟩ := Reader.root_ofText hfinds
    rw [← hsize, List.length_singleton] at hbound
    obtain ⟨bound, rfl⟩ := Nat.exists_eq_add_of_le' (show 2 ≤ bound by omega)
    rw [hroot]
    exact (Reader.run_last hholds.finds hl hlexes (by omega)).outline_eq

/-! ### Written records -/

/-- A field that a record can hold: one with a key of letters. -/
structure WritableField (field : String × Scalar) : Prop where
  /-- The key. -/
  key : IsKey field.1.toList

theorem endLine_append {cs : List Char} (hcs : cs.getLast?.any isAnyBreak = false)
    (ds : List Char) : endLine (cs ++ ds) = cs ++ endLine ds := by
  rw [endLine, endLine, List.getLast?_append]
  cases ds.getLast? with
  | none => simp [hcs]
  | some d =>
    show (if isAnyBreak d = true then _ else _) = cs ++ if isAnyBreak d = true then _ else _
    split <;> simp

theorem writeField_eq (field : String × Scalar) :
    writeField field = field.1.toList ++ ':' :: ' ' :: endLine (writeScalar field.2) := by
  have hspace : isAnyBreak ' ' = false := by decide
  rw [writeField, endLine_append (by simp [hspace]), List.append_assoc]
  rfl

/-- Written fields are lines, whose entries show the fields. -/
theorem exists_recordText_writeField {fields : List (String × Scalar)}
    (h : ∀ field ∈ fields, WritableField field) :
    ∃ entries, RecordText (fields.flatMap writeField) entries ∧
      List.Forall₂ Entry.Shows (entries.map KeyScalar.entry) fields := by
  induction fields with
  | nil => exact ⟨[], .nil, .nil⟩
  | cons field fields ih =>
    obtain ⟨entries, htext, hshows⟩ := ih fun f hf ↦ h f (List.mem_cons_of_mem field hf)
    obtain ⟨style, text, hlexes, hvalue⟩ := lexes_writeScalar field.2
    refine ⟨⟨field.1.toList, style, text⟩ :: entries, ?_, .cons ⟨?_, hvalue⟩ hshows⟩
    · rw [List.flatMap_cons, writeField_eq, List.append_assoc, List.cons_append, List.cons_append]
      exact .cons (h field List.mem_cons_self).key hlexes htext
    · exact congrArg Except.ok String.ofList_toList

theorem isPrintable_writeField {field : String × Scalar} (h : WritableField field) :
    ∀ c ∈ writeField field, isPrintable c = true := by
  have hend (cs : List Char) (hcs : ∀ c ∈ cs, isPrintable c = true) :
      ∀ c ∈ endLine cs, isPrintable c = true := by
    have hfeed : isPrintable '\n' = true := by decide
    unfold endLine
    split
    next => exact hcs
    next => simpa [or_imp, forall_and, hfeed] using hcs
  have hcolon : isPrintable ':' = true := by decide
  have hspace : isPrintable ' ' = true := by decide
  have hkey : ∀ c ∈ field.1.toList, isPrintable c = true := fun c hc ↦
    isPrintable_of_isAlpha (h.key.letters c hc)
  have hvalue := hend _ (isPrintable_writeScalar field.2)
  rw [writeField_eq]
  simp only [List.mem_append, List.mem_cons]
  rintro c (hc | rfl | rfl | hc)
  · exact hkey c hc
  · exact hcolon
  · exact hspace
  · exact hvalue c hc

theorem toList_writeRecord {fields : List (String × Scalar)} (hne : fields ≠ []) :
    (writeRecord fields).toList = fields.flatMap writeField := by
  rw [writeRecord, if_neg (by simpa using hne), String.toList_ofList]

/-- The outline of a written record shows its fields. -/
theorem outline_writeRecord {fields : List (String × Scalar)} (hne : fields ≠ [])
    (hfields : ∀ field ∈ fields, WritableField field) :
    (outline (writeRecord fields)).Shows fields := by
  have htext := toList_writeRecord hne
  have hprint : ∀ c ∈ (writeRecord fields).toList, isPrintable c = true := by
    intro c hc
    rw [htext, List.mem_flatMap] at hc
    obtain ⟨field, hfield, hc⟩ := hc
    exact isPrintable_writeField (hfields field hfield) c hc
  obtain ⟨entries, hlines, hshows⟩ := exists_recordText_writeField hfields
  have hentries : entries ≠ [] := by
    rintro rfl
    cases hshows
    exact hne rfl
  rw [← htext] at hlines
  exact ⟨_, outline_of_recordText (Cursor.ofText_of_isPrintable hprint)
    (Nat.le_of_eq String.length_toList) hlines hentries, hshows⟩

/-- The record without fields is written as a pair of braces. -/
theorem outline_writeRecord_nil : (outline (writeRecord [])).Shows [] :=
  ⟨[], rfl, .nil⟩

end Fitout.Yaml
