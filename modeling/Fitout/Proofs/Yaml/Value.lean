import Fitout.Proofs.Document.Shown
import Fitout.Proofs.Yaml.DoubleQuoted
import Fitout.Proofs.Yaml.Lexer
import Fitout.Proofs.Yaml.Literal
import Fitout.Proofs.Yaml.Number
import Fitout.Proofs.Yaml.SingleQuoted
import Fitout.Yaml.Outline

/-!
# Values of lines

A value stands behind its key up to the end of the line (`SpellsValue`), or over more lines if it is
written with line feeds. However it is written, it is found as one scalar, and the next key comes
after it (`Lexes`), or nothing if it is the last value and its line does not end (`LexesLast`).
Plain it is only where it neither looks like an indicator nor spells something else; so a text is
read as itself in any style, and never as an absent value.

Main statements: `SpellsValue.lexes`, `lexes_writeScalar`.
-/

namespace Fitout.Yaml

/-- A value with the end of its line: it is found as a scalar, whatever line comes next. -/
def Lexes (line : List Char) (style : Style) (text : List Char) : Prop :=
  ∀ (l : Lexer) (more : List Char), l.AtValue (line ++ more) → StartsLine more →
    ∃ l', l.Finds [.scalar style text] l' ∧ l'.AtLine true more

/-- A value at the end of the text: it is found as a scalar, and nothing comes after it. -/
def LexesLast (value : List Char) (style : Style) (text : List Char) : Prop :=
  ∀ l : Lexer, l.AtValue value → ∃ l', l.Finds [.scalar style text] l' ∧ l'.AtEnd

theorem Lexer.skipSpace_space (flow allowed : Bool) (m : Mark) {c : Char} (cs : List Char)
    (hspace : isSpace c = false) (hcomment : c ≠ '#') :
    skipSpace flow allowed false m (' ' :: c :: cs) = (allowed, m.step ' ', c :: cs) := by
  simp only [isSpace, isBlank, Bool.or_eq_false_iff, beq_eq_false_iff_ne] at hspace
  have hbreak : isBreak ' ' = false := by decide
  simp [skipSpace, hbreak, hspace, hcomment, Mark.step]

/-- Behind the space the value starts. -/
theorem Lexer.AtValue.comesTo {l : Lexer} {c : Char} {cs : List Char} (h : l.AtValue (c :: cs))
    (hspace : isSpace c = false) (hcomment : c ≠ '#') :
    l.ComesTo { l with cursor := ⟨c :: cs, l.cursor.mark.step ' ', false⟩ } (c :: cs) := by
  refine ⟨?_, dropStaleKeys_of_nil h.keys, rfl, closeBlocks_eq_self ?_, rfl⟩
  · rw [toToken, h.rest, skipSpace_space _ _ _ _ hspace hcomment]
    simp only [h.readable]
  · show l.indent ≤ _
    rw [h.indent]
    exact Int.natCast_nonneg _

/-- The scalar of a value, with the next line behind it. -/
theorem Lexer.AtValue.finds_scalar {l : Lexer} {cs more text : List Char} {style : Style}
    {m : Mark} (h : l.AtValue cs) (c : Cursor) (allowed : Bool)
    (hadd : l.addToken = some { l with
      cursor := c, queue := [.scalar style text], keyAllowed := allowed })
    (hbarred : c.barred = false) (hcolumn : m.column = 0)
    (hskip : skipSpace false allowed false c.mark c.rest = (true, m, more)) :
    ∃ l', l.Finds [.scalar style text] l' ∧ l'.AtLine true more := by
  refine ⟨_, finds_of_addToken h.queue hadd ⟨rfl, h.keys, rfl⟩,
    h.flow, rfl, h.keys, h.indent, h.outer, m, hcolumn, ?_⟩
  simp [toToken, h.flow, hskip, hbarred]

/-- The scalar of a value, with nothing behind it. -/
theorem Lexer.AtValue.finds_last {l : Lexer} {cs text : List Char} {style : Style} {m : Mark}
    (h : l.AtValue cs) (allowed : Bool)
    (hadd : l.addToken = some { l with
      cursor := ⟨[], m, false⟩, queue := [.scalar style text], keyAllowed := allowed }) :
    ∃ l', l.Finds [.scalar style text] l' ∧ l'.AtEnd :=
  ⟨_, finds_of_addToken h.queue hadd ⟨rfl, h.keys, rfl⟩,
    h.flow, rfl, h.keys, h.indent, h.outer, m, allowed, rfl⟩

theorem Lexer.skipSpace_feed (allowed : Bool) (m : Mark) (cs : List Char) :
    skipSpace false allowed false m ('\n' :: cs) = skipSpace false true false m.newLine cs := by
  simp [skipSpace, isBreak]

/-! ### Quoted values -/

/-- A value between quotes is taken off the text, if the reader of the style finds its end. -/
theorem Lexer.AtValue.addToken_quoted {l : Lexer} {quote : Char} {body rest text : List Char}
    {style : Style} {read : Bool → Gap → Mark → List Char → Option ScalarEnd} {m : Mark}
    (h : l.AtValue (quote :: (body ++ quote :: rest)))
    (hquote : isSpace quote = false ∧ quote ≠ '#')
    (hadd : ∀ {l l' : Lexer} {cs : List Char}, l.ComesTo l' (quote :: cs) →
      l.addToken = l'.addQuoted style read)
    (hread : read false .none ((l.cursor.mark.step ' ').step quote) (body ++ quote :: rest) =
      some { text := text, cursor := ⟨rest, m, false⟩ }) :
    l.addToken = some { l with
      cursor := ⟨rest, m, false⟩, queue := [.scalar style text], keyAllowed := false } := by
  rw [hadd (h.comesTo hquote.1 hquote.2)]
  simp [addQuoted, noteKey, h.keyAllowed, Cursor.forward, Cursor.sees, inSight, Mark.steps, hread,
    allowKey, push, h.queue]

section Quoted

variable {quote : Char} {body text : List Char} {style : Style}
  {read : Bool → Gap → Mark → List Char → Option ScalarEnd}
  (hquote : isSpace quote = false ∧ quote ≠ '#')
  (hadd : ∀ {l l' : Lexer} {cs : List Char}, l.ComesTo l' (quote :: cs) →
    l.addToken = l'.addQuoted style read)

include hquote hadd

/-- A value between quotes, if the reader of the style finds its end. -/
theorem lexes_quoted
    (hread : ∀ (m : Mark) (more : List Char), m.column ≠ 0 →
      ∃ m', read false .none m (body ++ quote :: '\n' :: more) =
        some { text := text, cursor := ⟨'\n' :: more, m', false⟩ }) :
    Lexes (quote :: (body ++ [quote, '\n'])) style text := by
  intro l more h hmore
  have hcons : quote :: (body ++ [quote, '\n']) ++ more =
      quote :: (body ++ quote :: '\n' :: more) := by simp
  rw [hcons] at h
  obtain ⟨m', hread⟩ := hread ((l.cursor.mark.step ' ').step quote) more (Nat.succ_ne_zero _)
  exact h.finds_scalar ⟨'\n' :: more, m', false⟩ false (h.addToken_quoted hquote hadd hread) rfl rfl
    ((Lexer.skipSpace_feed _ _ _).trans (Lexer.skipSpace_of_startsLine hmore m'.newLine))

/-- A value between quotes at the end of the text. -/
theorem lexesLast_quoted
    (hread : ∀ m : Mark, m.column ≠ 0 → ∃ m', read false .none m (body ++ [quote]) =
      some { text := text, cursor := ⟨[], m', false⟩ }) :
    LexesLast (quote :: (body ++ [quote])) style text := by
  intro l h
  obtain ⟨m', hread⟩ := hread ((l.cursor.mark.step ' ').step quote) (Nat.succ_ne_zero _)
  exact h.finds_last false (h.addToken_quoted hquote hadd hread)

end Quoted

theorem lexes_singleForm {cs : List Char} (hfeed : '\n' ∉ cs) (hallows : allowsSingle cs = true) :
    Lexes (endLine (singleForm cs)) .singleQuoted cs := by
  simp only [allowsSingle, needsEscapes, Bool.not_eq_true', Bool.or_eq_false_iff,
    Bool.not_eq_false', List.all_eq_true] at hallows
  obtain ⟨⟨hspaceBreak, hprint⟩, hbreakSpace⟩ := hallows
  have hend : endLine (singleForm cs) = singleForm cs ++ ['\n'] := endLine_concat _ (by decide)
  have hform : singleForm cs ++ ['\n'] = '\x27' :: (singleBody cs ++ ['\x27', '\n']) := by
    simp [singleForm_eq]
  rw [hend, hform]
  refine lexes_quoted (by decide) Lexer.ComesTo.addToken_single fun m more hcolumn ↦ ?_
  -- The opening quote is the character before the text, and neither a space nor a line break.
  exact singleQuoted_singleBody (a := '\x27') cs (.taken (by decide))
    (fun c hc ↦ ⟨hprint c hc, fun h ↦ hfeed (h ▸ hc)⟩)
    ((anyNeighbours_cons (by simp) cs).trans hspaceBreak)
    ((anyNeighbours_cons (by simp [isAnyBreak, isBreak]) cs).trans hbreakSpace)
    (absurd · hcolumn) (by simp)

theorem lexes_doubleForm (cs : List Char) :
    Lexes (endLine (doubleForm cs)) .doubleQuoted cs := by
  have hend : endLine (doubleForm cs) = doubleForm cs ++ ['\n'] := endLine_concat _ (by decide)
  have hform : doubleForm cs ++ ['\n'] = '\x22' :: (cs.flatMap escape ++ ['\x22', '\n']) := by
    simp [doubleForm]
  rw [hend, hform]
  exact lexes_quoted (by decide) Lexer.ComesTo.addToken_double fun m more hcolumn ↦
    (spellsDouble_flatMap_escape cs).doubleQuoted _ rfl hcolumn

/-! ### Plain values -/

/-- A plain value is taken off the text, if the reader finds its end. -/
theorem Lexer.AtValue.addToken_plain {l : Lexer} {c : Char} {cs rest : List Char} {cursor : Cursor}
    {broken : Bool} (h : l.AtValue (c :: (cs ++ rest))) (hcs : IsPlain (c :: cs))
    (hread : plainScalar false false 1 .none (l.cursor.mark.step ' ') (c :: (cs ++ rest)) =
      some ⟨c :: cs, cursor, broken⟩) :
    l.addToken = some { l with
      cursor := cursor, queue := [.scalar .plain (c :: cs)], keyAllowed := broken } := by
  rw [(h.comesTo hcs.isSpace_head hcs.head_ne).addToken_plain h.flow hcs.isSpace_head hcs.starts
    (Nat.succ_ne_zero _)]
  simp [addPlain, noteKey, h.keyAllowed, edge, h.indent, h.flow, hread, allowKey, push, h.queue]

theorem lexes_plain {cs : List Char} (hne : cs ≠ []) (hcs : IsPlain cs) :
    Lexes (cs ++ ['\n']) .plain cs := by
  intro l more h hmore
  obtain ⟨c, cs', rfl⟩ := List.exists_cons_of_ne_nil hne
  have hcons : c :: cs' ++ ['\n'] ++ more = c :: (cs' ++ '\n' :: more) := by simp
  rw [hcons] at h
  have hread := hcs.plainScalar_eq (m := l.cursor.mark.step ' ') Nat.one_pos (Nat.le_add_left _ _)
    fun d hd ↦ isSpace_of_isAlpha (hmore d hd)
  exact h.finds_scalar ⟨more, ((l.cursor.mark.step ' ').steps (c :: cs')).newLine, false⟩ true
    (h.addToken_plain hcs hread) rfl rfl (Lexer.skipSpace_of_startsLine hmore _)

/-- A plain value at the end of the text. -/
theorem lexesLast_plain {cs : List Char} (hne : cs ≠ []) (hcs : IsPlain cs) :
    LexesLast cs .plain cs := by
  intro l h
  obtain ⟨c, cs', rfl⟩ := List.exists_cons_of_ne_nil hne
  have hread := hcs.plainScalar_eq_of_over (m := l.cursor.mark.step ' ') Nat.one_pos
    (Nat.le_add_left _ _)
  rw [← List.append_nil cs'] at h
  exact h.finds_last false (h.addToken_plain hcs (by rwa [List.append_nil]))

/-! ### Literal values -/

theorem lexes_literalForm {cs : List Char} (hne : cs ≠ [])
    (hprint : ∀ c ∈ cs, isPrintable c = true) : Lexes (endLine (literalForm cs)) .literal cs := by
  intro l more h hmore
  obtain ⟨body, m', hbody, hm', hread⟩ := blockScalar_literalForm hne hprint
    (fun c hc ↦ isSpace_of_isAlpha (hmore c hc)) ((l.cursor.mark.step ' ').step '|')
  rw [hbody, List.cons_append] at h
  refine h.finds_scalar ⟨more, m', false⟩ true ?_ rfl hm' (Lexer.skipSpace_of_startsLine hmore m')
  rw [(h.comesTo (by decide) (by decide)).addToken_literal h.flow]
  have hfolded : (Style.literal == Style.folded) = false := by decide
  simp [Lexer.addBlockScalar, hfolded, Lexer.dropKey, Lexer.key?, h.keys, Lexer.edge, h.indent,
    Cursor.forward, Mark.steps, hread, Lexer.allowKey, Lexer.push, h.queue, Lexer.moveTo,
    Cursor.sees, inSight]

/-! ### What scalars are read as -/

/-- A text is read as itself from any scalar that is not taken for something else. -/
theorem value_shows_text {style : Style} {s : String}
    (h : style = .plain → isSpecial s.toList = false) :
    (Node.scalar none style s.toList).value.Shows (.text s) := by
  refine ⟨congrArg Except.ok String.ofList_toList, ?_⟩
  show scalarAbsent none style s.toList = .ok false
  by_cases hplain : style = .plain
  · have hspecial := h hplain
    simp only [isSpecial, Bool.or_eq_false_iff] at hspecial
    simp [scalarAbsent, hplain, hspecial]
  · simp [scalarAbsent, hplain]

/-- A number is read as itself from its digits. -/
theorem value_shows_number (w : UInt32) :
    (Node.scalar none .plain (Nat.toDigits 10 w.toNat)).value.Shows (.number w) := by
  refine ⟨scalarNumber_toDigits w, ?_⟩
  obtain ⟨d, ds, hcons, hd⟩ := Decimal.exists_toDigits_eq_cons w.toNat
  have hne (c : Char) (hc : c.isDigit = false) : c ≠ d := (ne_of_class hd hc).symm
  show scalarAbsent none .plain (Nat.toDigits 10 w.toNat) = .ok false
  rw [hcons]
  simp [scalarAbsent, isNull, hne]

/-- An integer is no value for a field unless it fits 32 bits. -/
theorem value_tells_integer (n : Int) :
    (Node.scalar none .plain (Literal.integer n).written.toList).value.Tells (.integer n) := by
  rw [Fitout.Node.Tells]
  split
  next v hv =>
    obtain ⟨hn, w, rfl, hw⟩ := Literal.scalar?_integer_eq_some hv
    rw [Literal.toList_written_integer, if_neg (by omega), List.nil_append, hw]
    exact value_shows_number w
  next hnone => exact scalarNumber_written hnone

/-! ### Values on one line -/

/-- What stands for a literal on a line: the digits of an integer, or a text between quotes. -/
inductive SpellsValue : List Char → Literal → Prop
  | integer (n : Int) : SpellsValue (Literal.integer n).written.toList (.integer n)
  | single {cs s : List Char} (h : SpellsSingle cs s) :
      SpellsValue ('\x27' :: (cs ++ ['\x27'])) (.text (String.ofList s))
  | double {cs s : List Char} (h : SpellsDouble cs s) :
      SpellsValue ('\x22' :: (cs ++ ['\x22'])) (.text (String.ofList s))

/-- What stands for a literal is found as a scalar that tells it, at the end of its line or of the
text. -/
theorem SpellsValue.lexes {cs : List Char} {literal : Literal} (h : SpellsValue cs literal) :
    ∃ style text, Lexes (cs ++ ['\n']) style text ∧ LexesLast cs style text ∧
      (Node.scalar none style text).value.Tells literal := by
  have hquoted (style : Style) (hstyle : style ≠ .plain) (s : List Char) :
      (Node.scalar none style s).value.Tells (.text (String.ofList s)) := by
    have hshows : (Node.scalar none style (String.ofList s).toList).value.Shows
        (.text (String.ofList s)) := value_shows_text fun h ↦ absurd h hstyle
    rwa [String.toList_ofList] at hshows
  have hnone : Gap.none.isBroken = false := rfl
  cases h with
  | integer n =>
    have hplain := isPlain_written n
    have hne : (Literal.integer n).written.toList ≠ [] := by simp
    exact ⟨.plain, _, lexes_plain hne hplain, lexesLast_plain hne hplain, value_tells_integer n⟩
  | @single cs s h =>
    refine ⟨.singleQuoted, s, ?_, ?_, hquoted .singleQuoted (by decide) s⟩
    · have hlexes := lexes_quoted (by decide) Lexer.ComesTo.addToken_single fun m more hcolumn ↦
        h.singleQuoted (by simp) hnone hcolumn
      simpa [Gap.fold] using hlexes
    · exact lexesLast_quoted (by decide) Lexer.ComesTo.addToken_single
        fun m hcolumn ↦ h.singleQuoted (by simp) hnone hcolumn
  | @double cs s h =>
    refine ⟨.doubleQuoted, s, ?_, ?_, hquoted .doubleQuoted (by decide) s⟩
    · have hlexes := lexes_quoted (by decide) Lexer.ComesTo.addToken_double fun m more hcolumn ↦
        h.doubleQuoted ('\n' :: more) hnone hcolumn
      simpa [Gap.fold] using hlexes
    · exact lexesLast_quoted (by decide) Lexer.ComesTo.addToken_double
        fun m hcolumn ↦ h.doubleQuoted [] hnone hcolumn

/-! ### Written values -/

theorem IsPlain.endLine_eq {cs : List Char} (h : IsPlain cs) : endLine cs = cs ++ ['\n'] := by
  have hany : cs.getLast?.any isAnyBreak = false := by
    cases hlast : cs.getLast? with
    | none => rfl
    | some c => exact h.unbroken c (List.mem_of_getLast? hlast)
  rw [endLine, hany]
  rfl

/-- A written value is found as a scalar that reads as the value. -/
theorem lexes_writeScalar (v : Scalar) :
    ∃ style text, Lexes (endLine (writeScalar v)) style text ∧
      (Node.scalar none style text).value.Shows v := by
  cases v with
  | number w =>
    refine ⟨.plain, _, ?_, value_shows_number w⟩
    rw [writeScalar, (isPlain_toDigits _).endLine_eq]
    exact lexes_plain Nat.toDigits_ne_nil (isPlain_toDigits _)
  | text s =>
    rw [writeScalar, writeText]
    split
    next hfeed =>
      rw [List.contains_iff_mem] at hfeed
      split
      next h =>
        refine ⟨.literal, _, ?_, value_shows_text nofun⟩
        exact lexes_literalForm (List.ne_nil_of_mem hfeed) (isPrintable_of_allowsLiteral h)
      next => exact ⟨.doubleQuoted, _, lexes_doubleForm s.toList, value_shows_text nofun⟩
    next hfeed =>
    rw [List.contains_iff_mem] at hfeed
    split
    next h =>
      simp only [Bool.and_eq_true, Bool.not_eq_true'] at h
      have hplain := isPlain_of_allowsPlain h.2
      have hne : s.toList ≠ [] := by
        rintro heq
        rw [heq] at h
        exact absurd h.1 (by decide)
      refine ⟨.plain, _, ?_, value_shows_text fun _ ↦ h.1⟩
      rw [hplain.endLine_eq]
      exact lexes_plain hne hplain
    split
    next h =>
      exact ⟨.singleQuoted, _, lexes_singleForm hfeed h, value_shows_text nofun⟩
    next => exact ⟨.doubleQuoted, _, lexes_doubleForm s.toList, value_shows_text nofun⟩

end Fitout.Yaml
