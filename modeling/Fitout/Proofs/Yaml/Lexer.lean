import Fitout.Proofs.Text.Numeral
import Fitout.Proofs.Yaml.Plain
import Fitout.Yaml.Lexer

/-!
# Tokens of written lines

A lexer goes through a written record line by line. In front of a line it has handed out all the
tokens it found (`Lexer.AtLine`). It then finds the key with the indicators around it, on the first
line together with the start of the mapping (`Lexer.AtLine.finds_key`); after these it stands in
front of the value (`Lexer.AtValue`). Which token the value is depends on how it is written, which
`Lexes` abstracts from. After the last line the mapping and the stream end
(`Lexer.AtEnd.finds_end`).
-/

namespace Fitout.Yaml

/-! ### Keys -/

/-- The keys that are written: words of letters. -/
structure IsKey (cs : List Char) : Prop where
  /-- A key has a name. -/
  nonempty : cs ≠ []
  /-- Nothing in a key is an indicator. -/
  letters : ∀ c ∈ cs, c.isAlpha = true
  /-- A key is found before it is too late for a key. -/
  short : cs.length ≤ 256

theorem isSpace_of_isAlpha {c : Char} (hc : c.isAlpha = true) : isSpace c = false := by
  have hcode (n : Nat) (hn : (Char.ofNat n).isAlpha = false) : c.toNat ≠ n := by
    rintro rfl
    rw [Char.ofNat_toNat, hc] at hn
    exact absurd hn (by decide)
  simp [isSpace, isBlank, isBreak, ne_of_class hc, hcode]

/-- A text that is over or goes on with a key. -/
def StartsLine (cs : List Char) : Prop :=
  ∀ c ∈ cs.head?, c.isAlpha = true

namespace Lexer

/-! ### Finding a token -/

/-- A lexer that comes to a place where no block ends and no key is given up. -/
structure ComesTo (l l' : Lexer) (cs : List Char) : Prop where
  /-- The place. -/
  toToken : l.toToken = l'
  /-- No key is given up. -/
  fresh : l'.dropStaleKeys = some l'
  /-- The text can be read. -/
  readable : l'.cursor.barred = false
  /-- No block ends. -/
  within : l'.closeBlocks l'.cursor.mark.column = l'
  /-- The rest of the text. -/
  rest : l'.cursor.rest = cs

theorem any_isBlank_of_atSpace {cs : List Char} (h : atSpace cs = false) :
    cs.head?.any isBlank = false := by
  cases cs with
  | nil => rfl
  | cons c cs =>
    simp only [atSpace, isSpace, Bool.or_eq_false_iff] at h
    exact h.1

section Dispatch

variable {l l' : Lexer} {c : Char} {cs : List Char}

theorem ComesTo.addToken_end (h : l.ComesTo l' []) : l.addToken = l'.addEnd := by
  rw [addToken, h.toToken, h.fresh]
  simp [Cursor.sees, inSight, h.readable, h.within, h.rest]

theorem ComesTo.addToken_colon (h : l.ComesTo l' (':' :: ' ' :: cs)) :
    l.addToken = l'.addValue := by
  rw [addToken, h.toToken, h.fresh]
  simp [Cursor.sees, inSight, h.readable, h.within, h.rest, startsIndicator, atSpace, isSpace,
    isBlank]

theorem ComesTo.addToken_single (h : l.ComesTo l' ('\x27' :: cs)) :
    l.addToken = l'.addQuoted .singleQuoted singleQuoted := by
  rw [addToken, h.toToken, h.fresh]
  simp [Cursor.sees, inSight, h.readable, h.within, h.rest, startsIndicator]

theorem ComesTo.addToken_double (h : l.ComesTo l' ('\x22' :: cs)) :
    l.addToken = l'.addQuoted .doubleQuoted doubleQuoted := by
  rw [addToken, h.toToken, h.fresh]
  simp [Cursor.sees, inSight, h.readable, h.within, h.rest, startsIndicator]

theorem ComesTo.addToken_literal (h : l.ComesTo l' ('|' :: cs)) (hflow : l'.flow = 0) :
    l.addToken = l'.addBlockScalar .literal := by
  rw [addToken, h.toToken, h.fresh]
  simp [Cursor.sees, inSight, h.readable, h.within, h.rest, startsIndicator, hflow]

/-- A letter starts a plain scalar. -/
theorem ComesTo.addToken_letter (h : l.ComesTo l' (c :: cs)) (hc : c.isAlpha = true) :
    l.addToken = l'.addPlain := by
  have hne (d : Char) (hd : d.isAlpha = false) : c ≠ d := ne_of_class hc hd
  have hstarts : startsIndicator (c :: cs) = false := by simp [startsIndicator, hne]
  rw [addToken, h.toToken, h.fresh]
  simp [Cursor.sees, inSight, h.readable, h.within, h.rest, hstarts, hne, startsPlain,
    isSpace_of_isAlpha hc]

/-- A text that may be written plain starts a plain scalar, unless it starts a line. -/
theorem ComesTo.addToken_plain {more : List Char} (h : l.ComesTo l' (c :: (cs ++ more)))
    (hflow : l'.flow = 0) (hspace : isSpace c = false)
    (hstarts : startsAsIndicator (c :: cs) = false) (hcolumn : l'.cursor.mark.column ≠ 0) :
    l.addToken = l'.addPlain := by
  simp only [startsAsIndicator, Bool.or_eq_false_iff] at hstarts
  obtain ⟨⟨-, hindicator⟩, hgap⟩ := hstarts
  have hindicator : ∀ d ∈ "#,[]\x7b\x7d&*!|>'\x22%@\x60".toList, c ≠ d := by
    rintro d hd rfl
    rw [isIndicator, List.contains_iff_mem.2 hd] at hindicator
    exact absurd hindicator (by decide)
  rw [addToken, h.toToken, h.fresh]
  by_cases hword : c = '-' ∨ c = '?' ∨ c = ':'
  · -- No blank follows, so the character is part of the scalar.
    have hgap : atGap cs = false := by simpa [hword, or_assoc] using hgap
    have hat := atSpace_append hgap more
    have hhead : (cs ++ more).head?.any isBlank = false := any_isBlank_of_atSpace hat
    rcases hword with rfl | rfl | rfl <;>
      simp [Cursor.sees, inSight, h.readable, h.within, h.rest, hcolumn, startsPlain, hflow, hat,
        hhead, -List.head?_append]
  · obtain ⟨hdash, hquestion, hcolon⟩ : c ≠ '-' ∧ c ≠ '?' ∧ c ≠ ':' := by simpa using hword
    simp only [String.reduceToList, List.mem_cons, List.not_mem_nil, or_false, forall_eq_or_imp,
      forall_eq] at hindicator
    simp [Cursor.sees, inSight, h.readable, h.within, h.rest, hcolumn, startsPlain, hspace,
      hindicator, hdash, hquestion, hcolon]

end Dispatch

/-! ### Tokens that are found -/

/-- A lexer that holds some tokens in front of `l'`, which it becomes when they are taken off. -/
structure Holds (l : Lexer) (ts : List Token) (l' : Lexer) : Prop where
  /-- The tokens. -/
  queue : l.queue = ts
  /-- No key can start any more. -/
  keys : l.keys = []
  /-- What is behind the tokens. -/
  behind : { l with queue := [], taken := l.taken + ts.length } = l'

/-- A lexer that finds some tokens in front of `l'` and can hand them out. -/
def Finds (l : Lexer) (ts : List Token) (l' : Lexer) : Prop :=
  ∃ l₁, l.fill l.bound = some l₁ ∧ l₁.Holds ts l'

section Finds

variable {l l₁ l₂ l' : Lexer} {t : Token} {ts : List Token}

theorem dropStaleKeys_of_nil (h : l.keys = []) : l.dropStaleKeys = some l := by
  cases l
  cases h
  rfl

theorem Holds.fill_succ (h : l.Holds (t :: ts) l') (bound : Nat) :
    l.fill (bound + 1) = some l := by
  rw [fill, dropStaleKeys_of_nil h.keys]
  simp [h.queue, waits, h.keys]

theorem Holds.finds (h : l.Holds (t :: ts) l') : l.Finds (t :: ts) l' :=
  ⟨l, h.fill_succ _, h⟩

theorem Holds.skip (h : l.Holds (t :: ts) l') : l.skip.Holds ts l' := by
  refine ⟨by simp [Lexer.skip, h.queue], h.keys, ?_⟩
  rw [← h.behind, List.length_cons, Nat.add_comm ts.length, ← Nat.add_assoc]
  rfl

theorem Holds.size_eq (h : l.Holds ts l') : l.size = l'.size := by
  rw [← h.behind]

theorem Holds.eq_of_nil (h : l.Holds [] l') : l = l' := by
  rw [← h.behind]
  exact congrArg (fun q ↦ { l with queue := q }) h.queue

theorem Finds.peek (h : l.Finds (t :: ts) l') :
    ∃ l₁, l.peek = some (t, l₁) ∧ l₁.Holds (t :: ts) l' := by
  obtain ⟨l₁, hfill, hholds⟩ := h
  refine ⟨l₁, ?_, hholds⟩
  rw [Lexer.peek, hfill]
  simp [hholds.queue]

theorem fill_of_waits (hwaits : l.waits = true) (hfresh : l.queue = [] ∨ l.dropStaleKeys = some l)
    (hadd : l.addToken = some l₁) (bound : Nat) : l.fill (bound + 1) = l₁.fill bound := by
  rw [fill]
  rcases hfresh with h | h <;> simp [h, hwaits, hadd]

/-- A token that is found at once. -/
theorem finds_of_addToken (hqueue : l.queue = []) (hadd : l.addToken = some l₁)
    (hholds : l₁.Holds (t :: ts) l') : l.Finds (t :: ts) l' := by
  refine ⟨l₁, ?_, hholds⟩
  rw [bound, fill_of_waits (by simp [waits, hqueue]) (.inl hqueue) hadd, hholds.fill_succ]

/-- Tokens that are found with the second token, since the first may be a key. -/
theorem finds_of_addToken_addToken (hqueue : l.queue = []) (hadd : l.addToken = some l₁)
    (hwaits : l₁.waits = true) (hfresh : l₁.dropStaleKeys = some l₁)
    (hadd' : l₁.addToken = some l₂) (hholds : l₂.Holds (t :: ts) l') : l.Finds (t :: ts) l' := by
  refine ⟨l₂, ?_, hholds⟩
  rw [bound, fill_of_waits (by simp [waits, hqueue]) (.inl hqueue) hadd,
    fill_of_waits hwaits (.inr hfresh) hadd', hholds.fill_succ]

end Finds

/-! ### Lines -/

/-- A lexer in front of a line of a record, or of the end of the text, with no tokens left. The
block of the record is open after the first line. -/
structure AtLine (l : Lexer) (opened : Bool) (cs : List Char) : Prop where
  /-- No brackets are open. -/
  flow : l.flow = 0
  /-- All tokens are handed out. -/
  queue : l.queue = []
  /-- No key has started. -/
  keys : l.keys = []
  /-- The column of the record. -/
  indent : l.indent = if opened then 0 else -1
  /-- There is nothing around the record. -/
  outer : l.outer = if opened then [-1] else []
  /-- The next token starts the line. -/
  line : ∃ m : Mark, m.column = 0 ∧
    l.toToken = { l with keyAllowed := true, cursor := ⟨cs, m, false⟩ }

/-- A lexer after the colon of a line, with no tokens left. -/
structure AtValue (l : Lexer) (cs : List Char) : Prop where
  /-- No brackets are open. -/
  flow : l.flow = 0
  /-- All tokens are handed out. -/
  queue : l.queue = []
  /-- No key has started. -/
  keys : l.keys = []
  /-- The record is at the start of its lines. -/
  indent : l.indent = 0
  /-- There is nothing around the record. -/
  outer : l.outer = [-1]
  /-- The value is no key. -/
  keyAllowed : l.keyAllowed = false
  /-- A space stands in front of the value. -/
  rest : l.cursor.rest = ' ' :: cs
  /-- The text can be read. -/
  readable : l.cursor.barred = false
  /-- The value does not start the line. -/
  column : l.cursor.mark.column ≠ 0

theorem skipSpace_of_startsLine {cs : List Char} (h : StartsLine cs) (m : Mark) :
    skipSpace false true false m cs = (true, m, cs) := by
  cases cs with
  | nil => rfl
  | cons c cs =>
    have hc : c.isAlpha = true := h c rfl
    have hspace := isSpace_of_isAlpha hc
    have hmark : isOrderMark c = false := by
      simp only [isOrderMark, beq_eq_false_iff_ne]
      intro hcode
      rw [← Char.ofNat_toNat c, hcode] at hc
      exact absurd hc (by decide)
    simp only [isSpace, isBlank, Bool.or_eq_false_iff, beq_eq_false_iff_ne] at hspace
    simp [skipSpace, hspace, hmark, ne_of_class hc]

/-- A text starts with a line. -/
theorem atLine_ofText {s : String} {cs : List Char} (hs : Cursor.ofText s.toList = { rest := cs })
    (hstarts : StartsLine cs) : (ofText s).AtLine false cs := by
  refine ⟨rfl, rfl, rfl, rfl, rfl, {}, rfl, ?_⟩
  have hskip := skipSpace_of_startsLine hstarts {}
  simp [ofText, hs, toToken, hskip]

/-- Blocks to the left of a column go on there. -/
theorem closeBlocks_eq_self {l : Lexer} {column : Int} (h : l.indent ≤ column) :
    l.closeBlocks column = l := by
  have hclose : closeFrom column l.indent l.outer = (0, l.indent, l.outer) := by
    cases l.outer with
    | nil => rfl
    | cons next outer => rw [closeFrom, if_neg (by omega)]
  rw [closeBlocks, hclose]
  simp

/-! ### Keys of lines -/

/-- The start of the record, on its first line. -/
def opening (opened : Bool) : List Token :=
  if opened then [] else [.blockMappingStart]

/-- A lexer after a word at `m`, which a key may have been. -/
def afterWord (l : Lexer) (opened : Bool) (m : Mark) (key rest : List Char) : Lexer :=
  { l with
    cursor := ⟨rest, m.steps key, false⟩
    queue := [.scalar .plain key]
    keyAllowed := false
    keys := [⟨opened, 0, l.taken, m⟩] }

/-- A lexer after a colon, which made a word at `m` a key. -/
def afterKey (l : Lexer) (opened : Bool) (m : Mark) (key rest : List Char) : Lexer :=
  { l with
    cursor := ⟨rest, (m.steps key).step ':', false⟩
    queue := opening opened ++ [.key, .scalar .plain key, .value]
    indent := 0
    outer := [-1]
    keyAllowed := false }

section Keys

variable {l : Lexer} {opened : Bool} {key rest : List Char}

theorem AtLine.addToken_key (h : l.AtLine opened (key ++ ':' :: ' ' :: rest)) (hkey : IsKey key) :
    ∃ m : Mark, m.column = 0 ∧
      l.addToken = some (l.afterWord opened m key (':' :: ' ' :: rest)) := by
  obtain ⟨m, hm, hto⟩ := h.line
  refine ⟨m, hm, ?_⟩
  obtain ⟨c, cs, hcons⟩ := List.exists_cons_of_ne_nil hkey.nonempty
  have hc : c.isAlpha = true := hkey.letters c (hcons ▸ List.mem_cons_self)
  have hindent : l.indent ≤ 0 := by
    rw [h.indent]
    split <;> decide
  have hcomes : l.ComesTo { l with
      keyAllowed := true, cursor := ⟨key ++ ':' :: ' ' :: rest, m, false⟩ }
      (c :: (cs ++ ':' :: ' ' :: rest)) :=
    ⟨hto, dropStaleKeys_of_nil h.keys, rfl, closeBlocks_eq_self (by simp [hm, hindent]),
      by rw [hcons]; rfl⟩
  have hword : ∀ d ∈ key, isSpace d = false ∧ d ≠ ':' := fun d hd ↦
    ⟨isSpace_of_isAlpha (hkey.letters d hd), ne_of_class (hkey.letters d hd) (by decide)⟩
  have hread (edge : Nat) :
      plainScalar false false edge .none m (key ++ ':' :: ' ' :: rest) =
        some ⟨key, ⟨':' :: ' ' :: rest, m.steps key, false⟩, false⟩ := plainScalar_word rest hword
  -- Once the record is open, a word at its column must be a key.
  have hrequired : (l.indent == (0 : Int)) = opened := by
    rw [h.indent]
    cases opened <;> rfl
  rw [hcomes.addToken_letter hc]
  simp [addPlain, noteKey, dropKey, key?, h.keys, h.flow, h.queue, hrequired, hm, hread, allowKey,
    push, afterWord]

/-- Within its line a short word may still be a key. -/
theorem dropStaleKeys_afterWord (hkey : IsKey key) (m : Mark) :
    (l.afterWord opened m key rest).dropStaleKeys = some (l.afterWord opened m key rest) := by
  have hindex := m.index_steps_le key
  have hshort := hkey.short
  have hstale : isStale (m.steps key) ⟨opened, 0, l.taken, m⟩ = false := by
    simp only [isStale, Mark.line_steps, Bool.or_eq_false_iff, decide_eq_false_iff_not]
    omega
  simp [dropStaleKeys, afterWord, hstale]

theorem AtLine.addToken_colon {cs : List Char} {m : Mark} (h : l.AtLine opened cs)
    (hkey : IsKey key) (hm : m.column = 0) :
    (l.afterWord opened m key (':' :: ' ' :: rest)).addToken =
      some (l.afterKey opened m key (' ' :: rest)) := by
  have hindent : l.indent ≤ 0 := by
    rw [h.indent]
    split <;> decide
  have hto : (l.afterWord opened m key (':' :: ' ' :: rest)).toToken =
      l.afterWord opened m key (':' :: ' ' :: rest) := by
    simp [toToken, afterWord, skipSpace, isBreak, isOrderMark, h.flow]
  have hwithin : (l.afterWord opened m key (':' :: ' ' :: rest)).indent ≤
      (m.steps key).column := by
    show l.indent ≤ _
    omega
  have hcomes : (l.afterWord opened m key (':' :: ' ' :: rest)).ComesTo _ (':' :: ' ' :: rest) :=
    ⟨hto, dropStaleKeys_afterWord hkey m, rfl, closeBlocks_eq_self hwithin, rfl⟩
  have hkey : (l.afterWord opened m key (':' :: ' ' :: rest)).key? =
      some ⟨opened, 0, l.taken, m⟩ := by
    simp [key?, afterWord, h.flow, Option.filter]
  have hindent := h.indent
  have houter := h.outer
  rw [hcomes.addToken_colon, addValue, hkey]
  cases opened <;>
    simp_all [afterWord, afterKey, opensAt, openBlock, pushAt, h.flow, h.keys, opening, allowKey,
      forward, Cursor.forward, push, Mark.steps]

/-- The key of a line is found with the indicators around it. -/
theorem AtLine.finds_key (h : l.AtLine opened (key ++ ':' :: ' ' :: rest)) (hkey : IsKey key) :
    ∃ l', l.Finds (opening opened ++ [.key, .scalar .plain key, .value]) l' ∧ l'.AtValue rest ∧
      l'.size = l.size := by
  obtain ⟨m, hm, hword⟩ := h.addToken_key hkey
  have hcolon : (l.afterWord opened m key (':' :: ' ' :: rest)).addToken =
      some (l.afterKey opened m key (' ' :: rest)) := h.addToken_colon hkey hm
  have hqueue : (l.afterKey opened m key (' ' :: rest)).Holds
      (opening opened ++ [.key, .scalar .plain key, .value]) _ :=
    ⟨rfl, h.keys, rfl⟩
  have hwaits : (l.afterWord opened m key (':' :: ' ' :: rest)).waits = true := by
    simp [waits, afterWord]
  -- The word is not handed out before the colon behind it has made it a key.
  obtain ⟨t, ts, hts⟩ : ∃ t ts,
      opening opened ++ [.key, .scalar .plain key, .value] = t :: ts := by
    cases opened <;> exact ⟨_, _, rfl⟩
  rw [hts] at hqueue ⊢
  exact ⟨_, finds_of_addToken_addToken h.queue hword hwaits (dropStaleKeys_afterWord hkey m)
    hcolon hqueue, ⟨h.flow, rfl, h.keys, rfl, rfl, rfl, rfl, rfl, Nat.succ_ne_zero _⟩, rfl⟩

end Keys

/-! ### The end -/

/-- A lexer behind the last value of a record, with no tokens left and nothing to come but the end
of a line. -/
structure AtEnd (l : Lexer) : Prop where
  /-- No brackets are open. -/
  flow : l.flow = 0
  /-- All tokens are handed out. -/
  queue : l.queue = []
  /-- No key has started. -/
  keys : l.keys = []
  /-- The record is at the start of its lines. -/
  indent : l.indent = 0
  /-- There is nothing around the record. -/
  outer : l.outer = [-1]
  /-- There is no next token. -/
  ends : ∃ (m : Mark) (allowed : Bool),
    l.toToken = { l with keyAllowed := allowed, cursor := ⟨[], m, false⟩ }

theorem AtLine.atEnd {l : Lexer} (h : l.AtLine true []) : l.AtEnd := by
  obtain ⟨m, -, hto⟩ := h.line
  exact ⟨h.flow, h.queue, h.keys, h.indent, h.outer, m, true, hto⟩

/-- At the end of the text the record and the stream end. -/
theorem AtEnd.finds_end {l : Lexer} (h : l.AtEnd) :
    ∃ l', l.Finds [.blockEnd, .streamEnd] l' := by
  obtain ⟨m, allowed, hto⟩ := h.ends
  have hcolumn : l.indent ≤ m.column := by
    rw [h.indent]
    exact Int.natCast_nonneg _
  have hcomes : l.ComesTo { l with keyAllowed := allowed, cursor := ⟨[], m, false⟩ } [] :=
    ⟨hto, dropStaleKeys_of_nil h.keys, rfl, closeBlocks_eq_self hcolumn, rfl⟩
  have hend : l.addToken = some { l with
      cursor := ⟨[], if m.column == 0 then m else ⟨m.index, m.line + 1, 0⟩, false⟩
      queue := [.blockEnd, .streamEnd]
      indent := -1
      outer := []
      keyAllowed := false } := by
    rw [hcomes.addToken_end]
    simp [addEnd, closeBlocks, closeFrom, dropKey, key?, h.flow, h.keys, h.queue, h.indent,
      h.outer, allowKey, push]
  exact ⟨_, finds_of_addToken h.queue hend ⟨rfl, h.keys, rfl⟩⟩

end Lexer

end Fitout.Yaml
