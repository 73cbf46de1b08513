import Fitout.Proofs.Yaml.Record

/-!
# Documents of lines

A document may state each field on a line of its own: the key, a colon and a space, and a value
(`SpellsLines`). Lines end with a line feed, a carriage return or both; the last need not end. Once
its line breaks are unified such a document is a record (`SpellsLines.exists_recordText`), since
nothing else in it is a line break.

Main statement: `outline_of_spellsLines`.
-/

namespace Fitout.Yaml

/-- How a line may end. -/
def IsFeed (feed : List Char) : Prop :=
  feed = ['\n'] ∨ feed = ['\r', '\n'] ∨ feed = ['\r']

/-- The lines of a document, each with a key and a value. -/
inductive SpellsLines : List Char → List (String × Literal) → Prop
  | nil : SpellsLines [] []
  | cons {key : String} {cs feed more : List Char} {literal : Literal}
      {fields : List (String × Literal)} (hkey : IsKey key.toList) (hvalue : SpellsValue cs literal)
      (hfeed : IsFeed feed) (hmore : SpellsLines more fields) :
      SpellsLines (key.toList ++ ':' :: ' ' :: (cs ++ (feed ++ more))) ((key, literal) :: fields)
  /-- A line that does not end. -/
  | last {key : String} {cs : List Char} {literal : Literal} (hkey : IsKey key.toList)
      (hvalue : SpellsValue cs literal) :
      SpellsLines (key.toList ++ ':' :: ' ' :: cs) [(key, literal)]

/-! ### Characters of values -/

theorem isKept_of_isAllowed {c : Char} (hallowed : isAllowed c = true)
    (hbreak : isAnyBreak c = false) : IsKept c := by
  simp only [isAnyBreak, Bool.or_eq_false_iff, beq_eq_false_iff_ne] at hbreak
  exact ⟨hallowed, hbreak.1.2, hbreak.2⟩

theorem SpellsSingle.isKept {cs s : List Char} (h : SpellsSingle cs s) : ∀ c ∈ cs, IsKept c := by
  have hquote : IsKept '\x27' := isKept_of_isPrintable (by decide)
  induction h with
  | nil => nofun
  | plain _ hallowed hbreak _ ih =>
    exact List.forall_mem_cons.2 ⟨isKept_of_isAllowed hallowed hbreak, ih⟩
  | quote _ ih => exact List.forall_mem_cons.2 ⟨hquote, List.forall_mem_cons.2 ⟨hquote, ih⟩⟩

theorem isKept_of_shortEscape? {c e : Char} (h : shortEscape? e = some c) : IsKept e := by
  have hprint (hprint : isPrintable e = true) : IsKept e := isKept_of_isPrintable hprint
  unfold shortEscape? at h
  split at h
  case h_5 => exact ⟨by decide, by decide, by decide⟩
  case h_19 => cases h
  all_goals exact hprint (by decide)

theorem isKept_of_hexDigit? {c : Char} {n : Nat} (h : hexDigit? c = some n) : IsKept c := by
  have hrange : 48 ≤ c.toNat ∧ c.toNat ≤ 57 ∨ 97 ≤ c.toNat ∧ c.toNat ≤ 102 ∨
      65 ≤ c.toNat ∧ c.toNat ≤ 70 := by
    unfold hexDigit? at h
    split at h
    next hdigit => exact .inl (by simpa [Char.le_def, UInt32.le_iff_toNat_le] using hdigit)
    split at h
    next hlower => exact .inr (.inl (by simpa [Char.le_def, UInt32.le_iff_toNat_le] using hlower))
    split at h
    next hupper => exact .inr (.inr (by simpa [Char.le_def, UInt32.le_iff_toNat_le] using hupper))
    next => cases h
  refine isKept_of_isPrintable ?_
  simp only [isPrintable, Bool.or_eq_true, Bool.and_eq_true, beq_iff_eq, decide_eq_true_eq]
  omega

theorem isKept_of_hexNumber? {cs : List Char} {n : Nat} (h : hexNumber? cs = some n) :
    ∀ c ∈ cs, IsKept c := by
  have hfold (k : Nat) (h : cs.foldlM (fun n c ↦ (hexDigit? c).map (n * 16 + ·)) k = some n) :
      ∀ c ∈ cs, IsKept c := by
    clear * - h
    induction cs generalizing k with
    | nil => nofun
    | cons c cs ih =>
      rw [List.foldlM_cons, Option.bind_eq_bind, Option.bind_eq_some_iff] at h
      obtain ⟨k', hdigit, hrest⟩ := h
      obtain ⟨d, hd, -⟩ := Option.map_eq_some_iff.1 hdigit
      exact List.forall_mem_cons.2 ⟨isKept_of_hexDigit? hd, ih k' hrest⟩
  exact hfold 0 h

theorem SpellsDouble.isKept {cs s : List Char} (h : SpellsDouble cs s) : ∀ c ∈ cs, IsKept c := by
  have hslash : IsKept '\\' := isKept_of_isPrintable (by decide)
  induction h with
  | nil => nofun
  | plain _ _ hallowed hbreak _ ih =>
    exact List.forall_mem_cons.2 ⟨isKept_of_isAllowed hallowed hbreak, ih⟩
  | short he _ ih =>
    exact List.forall_mem_cons.2 ⟨hslash, List.forall_mem_cons.2 ⟨isKept_of_shortEscape? he, ih⟩⟩
  | @code letter c digits cs s hletter hc _ ih =>
    have hprint : isPrintable letter = true := by
      simp only [List.mem_cons, Prod.mk.injEq, List.not_mem_nil, or_false] at hletter
      rcases hletter with ⟨rfl, -⟩ | ⟨rfl, -⟩ | ⟨rfl, -⟩ <;> decide
    obtain ⟨n, hn, -⟩ := Option.bind_eq_some_iff.1 hc
    refine List.forall_mem_cons.2 ⟨hslash, List.forall_mem_cons.2
      ⟨isKept_of_isPrintable hprint, List.forall_mem_append.2 ⟨isKept_of_hexNumber? hn, ih⟩⟩⟩

/-- A value stands on its line. -/
theorem SpellsValue.isKept {cs : List Char} {literal : Literal} (h : SpellsValue cs literal) :
    ∀ c ∈ cs, IsKept c := by
  have hquotes {quote : Char} {cs : List Char} (hquote : isPrintable quote = true)
      (hcs : ∀ c ∈ cs, IsKept c) : ∀ c ∈ quote :: (cs ++ [quote]), IsKept c := by
    have hkept := isKept_of_isPrintable hquote
    simpa [or_imp, forall_and, hkept] using hcs
  cases h with
  | integer n => exact fun c hc ↦ isKept_of_isPrintable ((isPlain_written n).printable c hc)
  | single h => exact hquotes (by decide) h.isKept
  | double h => exact hquotes (by decide) h.isKept

/-! ### Lines -/

theorem isKept_of_isAlpha {c : Char} (hc : c.isAlpha = true) : IsKept c :=
  isKept_of_isPrintable (isPrintable_of_isAlpha hc)

/-- What stands in front of a value. -/
theorem isKept_key {key : String} (hkey : IsKey key.toList) {cs : List Char}
    (hcs : ∀ c ∈ cs, IsKept c) : ∀ c ∈ key.toList ++ ':' :: ' ' :: cs, IsKept c := by
  have hcolon : IsKept ':' := isKept_of_isPrintable (by decide)
  have hspace : IsKept ' ' := isKept_of_isPrintable (by decide)
  refine List.forall_mem_append.2 ⟨fun c hc ↦ isKept_of_isAlpha (hkey.letters c hc), ?_⟩
  exact List.forall_mem_cons.2 ⟨hcolon, List.forall_mem_cons.2 ⟨hspace, hcs⟩⟩

theorem IsFeed.isAllowed {feed : List Char} (h : IsFeed feed) :
    ∀ c ∈ feed, Yaml.isAllowed c = true := by
  rcases h with rfl | rfl | rfl <;> exact List.all_eq_true.1 (by decide)

/-- However a line ends, it is taken up with a line feed. -/
theorem IsFeed.unifyBreaks_append {feed more : List Char} (h : IsFeed feed)
    (hmore : StartsLine more) : unifyBreaks (feed ++ more) = '\n' :: unifyBreaks more := by
  rcases h with rfl | rfl | rfl
  · rfl
  · rfl
  · cases more with
    | nil => rfl
    | cons c cs =>
      -- A carriage return is one end of a line with a line feed behind it, but a key comes here.
      have hc : c ≠ '\n' := ne_of_class (hmore c rfl) (by decide)
      simp [unifyBreaks, hc]

theorem length_unifyBreaks_le (cs : List Char) : (unifyBreaks cs).length ≤ cs.length := by
  fun_induction unifyBreaks cs with
  | case1 cs ih =>
    simp only [List.length_cons]
    omega
  | case2 cs _ ih | case3 c cs _ _ ih =>
    simp only [List.length_cons]
    omega
  | case4 => exact Nat.le_refl _

namespace SpellsLines

variable {cs : List Char} {fields : List (String × Literal)}

theorem startsLine (h : SpellsLines cs fields) : StartsLine cs := by
  cases h with
  | nil => nofun
  | cons hkey | last hkey => exact hkey.startsLine _

theorem isAllowed (h : SpellsLines cs fields) : ∀ c ∈ cs, Yaml.isAllowed c = true := by
  induction h with
  | nil => nofun
  | @cons key cs feed more literal fields hkey hvalue hfeed _ ih =>
    have hline := isKept_key hkey hvalue.isKept
    have happend : key.toList ++ ':' :: ' ' :: (cs ++ (feed ++ more)) =
        (key.toList ++ ':' :: ' ' :: cs) ++ (feed ++ more) := by simp
    rw [happend]
    exact List.forall_mem_append.2 ⟨fun c hc ↦ (hline c hc).allowed,
      List.forall_mem_append.2 ⟨hfeed.isAllowed, ih⟩⟩
  | last hkey hvalue => exact fun c hc ↦ (isKept_key hkey hvalue.isKept c hc).allowed

/-- With its line breaks unified, such a document is a record, whose entries tell the fields. -/
theorem exists_recordText (h : SpellsLines cs fields) :
    ∃ entries, RecordText (unifyBreaks cs) entries ∧
      List.Forall₂ (fun e f ↦ e.key = .ok f.1 ∧ e.value.Tells f.2)
        (entries.map KeyScalar.entry) fields := by
  have hentry {key : String} {style : Style} {text : List Char} :
      (KeyScalar.entry ⟨key.toList, style, text⟩).key = .ok key :=
    congrArg Except.ok String.ofList_toList
  induction h with
  | nil => exact ⟨[], .nil, .nil⟩
  | @cons key cs feed more literal fields hkey hvalue hfeed hmore ih =>
    obtain ⟨entries, htext, htells⟩ := ih
    obtain ⟨style, text, hlexes, -, hvalueTells⟩ := hvalue.lexes
    refine ⟨⟨key.toList, style, text⟩ :: entries, ?_, .cons ⟨hentry, hvalueTells⟩ htells⟩
    have happend : key.toList ++ ':' :: ' ' :: (cs ++ (feed ++ more)) =
        (key.toList ++ ':' :: ' ' :: cs) ++ (feed ++ more) := by simp
    have hline := RecordText.cons hkey hlexes htext
    rw [happend, unifyBreaks_append (isKept_key hkey hvalue.isKept),
      hfeed.unifyBreaks_append hmore.startsLine]
    simpa using hline
  | @last key cs literal hkey hvalue =>
    obtain ⟨style, text, -, hlast, hvalueTells⟩ := hvalue.lexes
    refine ⟨[⟨key.toList, style, text⟩], ?_, .cons ⟨hentry, hvalueTells⟩ .nil⟩
    have hunify := unifyBreaks_append (isKept_key hkey hvalue.isKept) []
    rw [List.append_nil, unifyBreaks, List.append_nil] at hunify
    rw [hunify]
    exact .last hkey hlast

end SpellsLines

/-- The outline of a document of lines tells its fields. -/
theorem outline_of_spellsLines {s : String} {fields : List (String × Literal)}
    (h : SpellsLines s.toList fields) (hne : fields ≠ []) : (outline s).Tells fields := by
  obtain ⟨entries, htext, htells⟩ := h.exists_recordText
  have hentries : entries ≠ [] := by
    rintro rfl
    cases htells
    exact hne rfl
  have hlength : (unifyBreaks s.toList).length ≤ s.length := by
    rw [← String.length_toList]
    exact length_unifyBreaks_le s.toList
  have houtline := outline_of_recordText (Cursor.ofText_of_isAllowed h.isAllowed) hlength htext
    hentries
  exact ⟨_, _, houtline, .of_forall₂ htells⟩

end Fitout.Yaml
