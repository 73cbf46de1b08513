import Fitout.Proofs.Json.Grammar

/-!
# The outline of a JSON document

The outline of a document goes one level deep, so it is closed only for a list or an object of
values without parts, and then it has what these values are to a reader of fields. Both directions
are proved along the elements of the list and the members of the object.

Main statements: `outline_eq_record_iff`, `outline_eq_list_iff`.
-/

namespace Fitout.Json

/-! ### Lists -/

section Lists

variable {cs tail : List Char} {vs : List Value} {ns : List Node}

/-- Elements are read to the end if the first of them is, and either there are others behind a comma
or it is the only one. -/
theorem readElements_succ_eq_closed_iff {bound : Nat} {b : Bool} :
    readElements (bound + 1) cs = (ns, .closed b) ↔ ∃ n rest, readValue cs = .value n rest ∧
      ((∃ more ns', skipBlanks rest = ',' :: more ∧
          readElements bound more = (ns', .closed b) ∧ ns = n :: ns') ∨
        ∃ tail, skipBlanks rest = '\x5d' :: tail ∧ isOver tail = b ∧ ns = [n]) := by
  constructor
  · intro h
    rw [readElements] at h
    split at h
    next => cases h
    next => cases h
    next n rest hread =>
      refine ⟨n, rest, hread, ?_⟩
      split at h
      next more hskip =>
        rcases hrest : readElements bound more with ⟨ns', ending⟩
        rw [hrest] at h
        cases h
        exact .inl ⟨more, ns', hskip, hrest, rfl⟩
      next tail hskip =>
        cases h
        exact .inr ⟨tail, hskip, rfl, rfl⟩
      next => cases h
  · rintro ⟨n, rest, hread, ⟨more, ns', hskip, hrest, rfl⟩ | ⟨tail, hskip, rfl, rfl⟩⟩
    · simp [readElements, hread, hskip, hrest]
    · simp [readElements, hread, hskip]

/-- The elements of a list are read one after the other. -/
theorem SpellsElements.readElements (h : SpellsElements cs vs)
    (hns : List.Forall₂ (fun v n ↦ Value.node? v = some n) vs ns) (htail : AreBlanks tail)
    {bound : Nat} (hbound : vs.length ≤ bound) :
    readElements bound (cs ++ '\x5d' :: tail) = (ns, .closed true) := by
  -- A list of elements cannot be taken apart by the relation alone, which is mutual.
  induction vs generalizing cs ns bound with
  | nil => cases h
  | cons v vs ih =>
    obtain ⟨bound, rfl⟩ := Nat.exists_eq_add_of_le' (Nat.le_trans (Nat.le_add_left 1 _) hbound)
    obtain ⟨n, ns, hn, hrest, rfl⟩ := List.forall₂_cons_left_iff.1 hns
    rw [readElements_succ_eq_closed_iff]
    cases h with
    | one h =>
      cases hrest
      obtain ⟨rest, hread, hskip⟩ := h.readValue hn (.inr (.inl rfl)) tail
      exact ⟨n, rest, hread, .inr ⟨tail, hskip, isOver_iff.2 htail, rfl⟩⟩
    | @cons cs more _ _ h hmore =>
      rw [List.append_assoc, List.cons_append]
      obtain ⟨rest, hread, hskip⟩ := h.readValue hn (.inl rfl) (more ++ '\x5d' :: tail)
      exact ⟨n, rest, hread,
        .inl ⟨_, ns, hskip, ih hmore hrest (Nat.le_of_succ_le_succ hbound), rfl⟩⟩

theorem exists_of_readElements {bound : Nat} (h : readElements bound cs = (ns, .closed true)) :
    ∃ es vs tail, SpellsElements es vs ∧ AreBlanks tail ∧
      List.Forall₂ (fun v n ↦ Value.node? v = some n) vs ns ∧ cs = es ++ '\x5d' :: tail := by
  induction bound generalizing cs ns with
  | zero => cases h
  | succ bound ih =>
    obtain ⟨n, rest, hread, hmore⟩ := readElements_succ_eq_closed_iff.1 h
    obtain ⟨es, v, hv, hn, rfl⟩ := exists_padded_of_readValue hread
    rcases hmore with ⟨more, ns', hskip, hrest, rfl⟩ | ⟨tail, hskip, hover, rfl⟩
    · obtain ⟨fs, vs, tail, hfs, htail, hns, rfl⟩ := ih hrest
      exact ⟨_, v :: vs, tail, .cons hv hfs, htail, .cons hn hns, by rw [hskip]; simp⟩
    · exact ⟨es, [v], tail, .one hv, isOver_iff.1 hover, .cons hn .nil, by rw [hskip]⟩

/-- Every element but the first takes up a comma. -/
theorem SpellsElements.length_le (h : SpellsElements cs vs) : vs.length ≤ cs.length + 1 := by
  induction vs generalizing cs with
  | nil => exact Nat.zero_le _
  | cons v vs ih =>
    cases h with
    | one => simp
    | cons _ hmore =>
      have := ih hmore
      simp only [List.length_append, List.length_cons]
      omega

theorem readList_of_readElements (h : readElements cs.length cs = (ns, .closed true)) :
    readList cs = .list ns (.closed true) := by
  rw [readList]
  split
  next rest hskip =>
    -- No value starts with a closing bracket.
    cases cs with
    | nil => cases h
    | cons c cs =>
      rw [List.length_cons, readElements, readValue, hskip] at h
      cases h
  next => rw [h]

theorem readList_eq_iff : readList cs = .list ns (.closed true) ↔
    ∃ body vs tail, SpellsValue ('\x5b' :: (body ++ ['\x5d'])) (.list vs) ∧ AreBlanks tail ∧
      List.Forall₂ (fun v n ↦ Value.node? v = some n) vs ns ∧ cs = body ++ '\x5d' :: tail := by
  constructor
  · intro h
    rw [readList] at h
    split at h
    next tail hskip =>
      simp only [Outline.list.injEq, Ending.closed.injEq] at h
      obtain ⟨rfl, hover⟩ := h
      obtain ⟨blanks, hblanks, hcs⟩ := exists_blanks cs
      exact ⟨blanks, [], tail, .emptyList hblanks, isOver_iff.1 hover, .nil, by rw [← hskip, ← hcs]⟩
    next =>
      rcases hread : readElements cs.length cs with ⟨ns, ending⟩
      rw [hread] at h
      cases h
      obtain ⟨es, vs, tail, hes, htail, hns, heq⟩ := exists_of_readElements hread
      exact ⟨es, vs, tail, .list hes, htail, hns, heq⟩
  · rintro ⟨body, vs, tail, h, htail, hns, rfl⟩
    generalize hcs : '\x5b' :: (body ++ ['\x5d']) = cs at h
    cases h with
    | emptyList hblanks =>
      obtain rfl := List.append_cancel_right (List.cons.inj hcs).2
      cases hns
      rw [readList, skipBlanks_append hblanks (by decide)]
      simp [isOver_iff.2 htail]
    | list h =>
      obtain rfl := List.append_cancel_right (List.cons.inj hcs).2
      refine readList_of_readElements (h.readElements hns htail ?_)
      have := h.length_le
      simp only [List.length_append, List.length_cons]
      omega

end Lists

/-! ### Objects -/

/-- An entry with the key of a member and with what its value is to a reader of fields. -/
def IsEntryOf (member : String × Value) (e : Entry) : Prop :=
  e.key = .ok member.1 ∧ member.2.node? = some e.value

section Objects

variable {cs tail : List Char} {c : Char} {member : String × Value}
  {members : List (String × Value)} {e : Entry} {es : List Entry}

/-- An entry is read, a key that stands before a value, and the rest follows it but for blanks. -/
def ReadsEntry (cs : List Char) (e : Entry) (rest : List Char) : Prop :=
  ∃ more name value tail, skipBlanks cs = '\x22' :: more ∧
    readString more = some (name, value) ∧ e.key = .ok (String.ofList name) ∧
    readMember value = .value e.value tail ∧ skipBlanks tail = rest

/-- Entries are read to the end if the first of them is, and either there are others behind a comma
or it is the only one. -/
theorem readEntries_succ_eq_closed_iff {bound : Nat} {b : Bool} :
    readEntries (bound + 1) cs = (es, .closed b) ↔ ∃ e rest, ReadsEntry cs e rest ∧
      ((∃ more es', rest = ',' :: more ∧ readEntries bound more = (es', .closed b) ∧
          es = e :: es') ∨
        ∃ tail, rest = '\x7d' :: tail ∧ isOver tail = b ∧ es = [e]) := by
  constructor
  · intro h
    rw [readEntries] at h
    split at h
    next more hkey =>
      split at h
      next => cases h
      next name value hname =>
        dsimp only at h
        split at h
        next => cases h
        next => cases h
        next n after hvalue =>
          refine ⟨⟨.ok (String.ofList name), n⟩, skipBlanks after,
            ⟨more, name, value, after, hkey, hname, rfl, hvalue, rfl⟩, ?_⟩
          split at h
          next more hskip =>
            rcases hrest : readEntries bound more with ⟨es', ending⟩
            rw [hrest] at h
            cases h
            exact .inl ⟨more, es', hskip, hrest, rfl⟩
          next tail hskip =>
            cases h
            exact .inr ⟨tail, hskip, rfl, rfl⟩
          next => cases h
    next => cases h
  · rintro ⟨⟨_, n⟩, rest, ⟨more, name, value, after, hkey, hname, ⟨⟩, hvalue, hskip⟩, hmore⟩
    rw [readEntries, hkey]
    rcases hmore with ⟨more, es', rfl, hrest, rfl⟩ | ⟨tail, rfl, rfl, rfl⟩
    · simp [hname, hvalue, hskip, hrest]
    · simp [hname, hvalue, hskip]

/-- A member of an object is read as its entry, up to what separates it from the next. -/
theorem SpellsEntry.readsEntry (h : SpellsEntry cs member) (he : IsEntryOf member e)
    (hc : IsSeparator c) (rest : List Char) : ReadsEntry (cs ++ c :: rest) e (c :: rest) := by
  obtain ⟨hkey, hvalue⟩ := he
  cases h with
  | @mk lead key gap vs name v hlead hname hgap h =>
    obtain ⟨tail, hread, hskip⟩ := h.readValue hvalue hc rest
    refine ⟨_, name, gap ++ ':' :: (vs ++ c :: rest), tail, ?_, hname.readString _, hkey, ?_, hskip⟩
    · rw [List.append_assoc, List.cons_append, skipBlanks_append hlead (by decide)]
      simp
    · rw [readMember, skipBlanks_append hgap (by decide)]
      exact hread

/-- What is read of a member of an object is what the member is. -/
theorem SpellsEntry.eq_of_readsEntry {rest rest' : List Char} (h : SpellsEntry cs member)
    (hc : IsSeparator c) (hread : ReadsEntry (cs ++ c :: rest) e rest') :
    IsEntryOf member e ∧ rest' = c :: rest := by
  obtain ⟨more, name, value, tail, hskip, hname, hkey, hvalue, rfl⟩ := hread
  cases h with
  | @mk lead key gap vs name' v hlead hname' hgap h =>
    rw [List.append_assoc, List.cons_append, skipBlanks_append hlead (by decide),
      List.append_assoc, List.cons_append, List.cons.injEq] at hskip
    rw [← hskip.2, hname'.readString, Option.some.injEq, Prod.mk.injEq] at hname
    obtain ⟨rfl, rfl⟩ := hname
    rw [List.append_assoc, List.cons_append, readMember,
      skipBlanks_append hgap (by decide)] at hvalue
    obtain ⟨hn, htail⟩ := h.eq_of_readValue hc hvalue
    exact ⟨⟨hkey, hn⟩, htail⟩

/-- What is read as an entry is a member of an object. -/
theorem ReadsEntry.exists_member {rest : List Char} (h : ReadsEntry cs e rest) :
    ∃ ms member, SpellsEntry ms member ∧ IsEntryOf member e ∧ cs = ms ++ rest := by
  obtain ⟨more, name, value, tail, hskip, hname, hkey, hvalue, rfl⟩ := h
  obtain ⟨lead, hlead, hcs⟩ := exists_blanks cs
  obtain ⟨ks, hks, rfl⟩ := exists_of_readString hname
  obtain ⟨gap, hgap, hvalueBlanks⟩ := exists_blanks value
  rw [readMember] at hvalue
  split at hvalue
  next rest hcolon =>
    obtain ⟨vs, v, hv, hn, rfl⟩ := exists_padded_of_readValue hvalue
    refine ⟨_, (String.ofList name, v), .mk hlead hks hgap hv, ⟨hkey, hn⟩, ?_⟩
    rw [hcs, hskip, hvalueBlanks, hcolon]
    simp
  next => cases hvalue

/-- The members of an object are read one after the other. -/
theorem SpellsEntries.readEntries (h : SpellsEntries cs members)
    (hes : List.Forall₂ IsEntryOf members es) (htail : AreBlanks tail) {bound : Nat}
    (hbound : members.length ≤ bound) :
    readEntries bound (cs ++ '\x7d' :: tail) = (es, .closed true) := by
  induction members generalizing cs es bound with
  | nil => cases h
  | cons member members ih =>
    obtain ⟨bound, rfl⟩ := Nat.exists_eq_add_of_le' (Nat.le_trans (Nat.le_add_left 1 _) hbound)
    obtain ⟨e, es, he, hrest, rfl⟩ := List.forall₂_cons_left_iff.1 hes
    rw [readEntries_succ_eq_closed_iff]
    cases h with
    | one h =>
      cases hrest
      exact ⟨e, _, h.readsEntry he (.inr (.inr rfl)) tail,
        .inr ⟨tail, rfl, isOver_iff.2 htail, rfl⟩⟩
    | @cons cs more _ _ h hmore =>
      rw [List.append_assoc, List.cons_append]
      exact ⟨e, _, h.readsEntry he (.inl rfl) _,
        .inl ⟨_, es, rfl, ih hmore hrest (Nat.le_of_succ_le_succ hbound), rfl⟩⟩

theorem exists_of_readEntries {bound : Nat} (h : readEntries bound cs = (es, .closed true)) :
    ∃ ms members tail, SpellsEntries ms members ∧ AreBlanks tail ∧
      List.Forall₂ IsEntryOf members es ∧ cs = ms ++ '\x7d' :: tail := by
  induction bound generalizing cs es with
  | zero => cases h
  | succ bound ih =>
    obtain ⟨e, rest, hread, hmore⟩ := readEntries_succ_eq_closed_iff.1 h
    obtain ⟨ms, member, hmember, he, rfl⟩ := hread.exists_member
    rcases hmore with ⟨more, es', rfl, hrest, rfl⟩ | ⟨tail, rfl, hover, rfl⟩
    · obtain ⟨ns, members, tail, hns, htail, hes, rfl⟩ := ih hrest
      exact ⟨_, member :: members, tail, .cons hmember hns, htail, .cons he hes, by simp⟩
    · exact ⟨ms, [member], tail, .one hmember, isOver_iff.1 hover, .cons he .nil, rfl⟩

/-- What is read of an object to its end is what its members are. -/
theorem SpellsEntries.forall₂_of_readEntries (h : SpellsEntries cs members) {bound : Nat}
    (hread : Json.readEntries bound (cs ++ '\x7d' :: tail) = (es, .closed true)) :
    List.Forall₂ IsEntryOf members es := by
  induction members generalizing cs es bound with
  | nil => cases h
  | cons member members ih =>
    cases bound with
    | zero => cases hread
    | succ bound =>
      obtain ⟨e, rest, hread, hmore⟩ := readEntries_succ_eq_closed_iff.1 hread
      cases h with
      | one h =>
        obtain ⟨he, rfl⟩ := h.eq_of_readsEntry (.inr (.inr rfl)) hread
        obtain ⟨_, _, hcomma, -⟩ | ⟨_, -, -, rfl⟩ := hmore
        · cases hcomma
        · exact .cons he .nil
      | @cons cs more _ _ h hrest =>
        rw [List.append_assoc, List.cons_append] at hread
        obtain ⟨he, rfl⟩ := h.eq_of_readsEntry (.inl rfl) hread
        obtain ⟨_, es', ⟨⟩, hes, rfl⟩ | ⟨_, hbrace, -⟩ := hmore
        · exact .cons he (ih hrest hes)
        · cases hbrace

/-- Every member but the first takes up a comma. -/
theorem SpellsEntries.length_le (h : SpellsEntries cs members) :
    members.length ≤ cs.length + 1 := by
  induction members generalizing cs with
  | nil => exact Nat.zero_le _
  | cons member members ih =>
    cases h with
    | one => simp
    | cons _ hmore =>
      have := ih hmore
      simp only [List.length_append, List.length_cons]
      omega

theorem readObject_of_readEntries (h : readEntries cs.length cs = (es, .closed true)) :
    readObject cs = .record es (.closed true) := by
  rw [readObject]
  split
  next rest hskip =>
    -- No key starts with a closing brace.
    cases cs with
    | nil => cases h
    | cons c cs =>
      rw [List.length_cons, readEntries, hskip] at h
      cases h
  next => rw [h]

/-- An object with members starts with a key. -/
theorem SpellsEntries.exists_key (h : SpellsEntries cs members) :
    ∃ lead more, AreBlanks lead ∧ cs = lead ++ '\x22' :: more := by
  cases h with
  | one h =>
    obtain ⟨hlead⟩ := h
    exact ⟨_, _, hlead, rfl⟩
  | cons h =>
    obtain ⟨hlead⟩ := h
    exact ⟨_, _, hlead, by rw [List.append_assoc, List.cons_append]⟩

/-- What is found of an object, if it is read to its end, is what its members are. -/
theorem forall₂_of_readObject {body : List Char}
    (h : SpellsValue ('\x7b' :: (body ++ ['\x7d'])) (.object members))
    (hread : readObject (body ++ '\x7d' :: tail) = .record es (.closed true)) :
    List.Forall₂ IsEntryOf members es := by
  generalize hcs : '\x7b' :: (body ++ ['\x7d']) = cs at h
  cases h with
  | emptyObject hblanks =>
    obtain rfl := List.append_cancel_right (List.cons.inj hcs).2
    rw [readObject, skipBlanks_append hblanks (by decide)] at hread
    obtain ⟨rfl, -⟩ := Outline.record.inj hread
    exact .nil
  | object h =>
    obtain rfl := List.append_cancel_right (List.cons.inj hcs).2
    obtain ⟨lead, more, hlead, hkey⟩ := h.exists_key
    have hskip : skipBlanks (body ++ '\x7d' :: tail) = '\x22' :: (more ++ '\x7d' :: tail) := by
      rw [hkey, List.append_assoc, List.cons_append]
      exact skipBlanks_append hlead (by decide) _
    rw [readObject_of_key hskip, Outline.record.injEq] at hread
    exact h.forall₂_of_readEntries (Prod.ext hread.1 hread.2)

theorem readObject_eq_iff : readObject cs = .record es (.closed true) ↔
    ∃ body members tail, SpellsValue ('\x7b' :: (body ++ ['\x7d'])) (.object members) ∧
      AreBlanks tail ∧ List.Forall₂ IsEntryOf members es ∧ cs = body ++ '\x7d' :: tail := by
  constructor
  · intro h
    rw [readObject] at h
    split at h
    next tail hskip =>
      simp only [Outline.record.injEq, Ending.closed.injEq] at h
      obtain ⟨rfl, hover⟩ := h
      obtain ⟨blanks, hblanks, hcs⟩ := exists_blanks cs
      exact ⟨blanks, [], tail, .emptyObject hblanks, isOver_iff.1 hover, .nil,
        by rw [← hskip, ← hcs]⟩
    next =>
      rcases hread : readEntries cs.length cs with ⟨es, ending⟩
      rw [hread] at h
      cases h
      obtain ⟨ms, members, tail, hms, htail, hes, heq⟩ := exists_of_readEntries hread
      exact ⟨ms, members, tail, .object hms, htail, hes, heq⟩
  · rintro ⟨body, members, tail, h, htail, hes, rfl⟩
    generalize hcs : '\x7b' :: (body ++ ['\x7d']) = cs at h
    cases h with
    | emptyObject hblanks =>
      obtain rfl := List.append_cancel_right (List.cons.inj hcs).2
      cases hes
      rw [readObject, skipBlanks_append hblanks (by decide)]
      simp [isOver_iff.2 htail]
    | object h =>
      obtain rfl := List.append_cancel_right (List.cons.inj hcs).2
      refine readObject_of_readEntries (h.readEntries hes htail ?_)
      have := h.length_le
      simp only [List.length_append, List.length_cons]
      omega

end Objects

/-! ### Documents -/

section Documents

variable {s : String} {v : Value}

theorem spellsDocument_iff : SpellsDocument s v ↔
    ∃ lead cs tail, AreBlanks lead ∧ SpellsValue cs v ∧ AreBlanks tail ∧
      s.toList = lead ++ (cs ++ tail) := by
  constructor
  · intro h
    rw [SpellsDocument] at h
    generalize hcs : s.toList = cs at h
    obtain ⟨hlead, h, htail⟩ := h
    exact ⟨_, _, _, hlead, h, htail, rfl⟩
  · rintro ⟨lead, cs, tail, hlead, h, htail, hs⟩
    rw [SpellsDocument, hs]
    exact .mk hlead h htail

/-- The outline of a document that is an object is read behind the opening brace. -/
theorem SpellsDocument.outline_object {members : List (String × Value)}
    (h : SpellsDocument s (.object members)) :
    ∃ body tail, SpellsValue ('\x7b' :: (body ++ ['\x7d'])) (.object members) ∧ AreBlanks tail ∧
      outline s = readObject (body ++ '\x7d' :: tail) := by
  obtain ⟨lead, cs, tail, hlead, hv, htail, hs⟩ := spellsDocument_iff.1 h
  obtain ⟨body, rfl⟩ : ∃ body, cs = '\x7b' :: (body ++ ['\x7d']) := by
    cases hv <;> exact ⟨_, rfl⟩
  have hs : s.toList = lead ++ '\x7b' :: (body ++ '\x7d' :: tail) := by rw [hs]; simp
  refine ⟨body, tail, hv, htail, ?_⟩
  rw [outline, hs, skipBlanks_append hlead (by decide)]
  rfl

/-- The outline of a document that is a list is read behind the opening bracket. -/
theorem SpellsDocument.outline_list {vs : List Value} (h : SpellsDocument s (.list vs)) :
    ∃ body tail, SpellsValue ('\x5b' :: (body ++ ['\x5d'])) (.list vs) ∧ AreBlanks tail ∧
      outline s = readList (body ++ '\x5d' :: tail) := by
  obtain ⟨lead, cs, tail, hlead, hv, htail, hs⟩ := spellsDocument_iff.1 h
  obtain ⟨body, rfl⟩ : ∃ body, cs = '\x5b' :: (body ++ ['\x5d']) := by
    cases hv <;> exact ⟨_, rfl⟩
  have hs : s.toList = lead ++ '\x5b' :: (body ++ '\x5d' :: tail) := by rw [hs]; simp
  refine ⟨body, tail, hv, htail, ?_⟩
  rw [outline, hs, skipBlanks_append hlead (by decide)]
  rfl

/-- The outline of a document is a closed record if the document is an object of values without
parts. -/
theorem outline_eq_record_iff {es : List Entry} : outline s = .record es (.closed true) ↔
    ∃ members, SpellsDocument s (.object members) ∧ List.Forall₂ IsEntryOf members es := by
  constructor
  · intro h
    obtain ⟨lead, hlead, hs⟩ := exists_blanks s.toList
    rw [outline] at h
    split at h
    next rest hskip =>
      obtain ⟨body, members, tail, hv, htail, hes, rfl⟩ := readObject_eq_iff.1 h
      exact ⟨members, spellsDocument_iff.2 ⟨lead, _, tail, hlead, hv, htail, by
        rw [hs, hskip]; simp⟩, hes⟩
    next =>
      rw [readList] at h
      split at h <;> cases h
    next => split at h <;> cases h
  · rintro ⟨members, h, hes⟩
    obtain ⟨body, tail, hv, htail, heq⟩ := h.outline_object
    rw [heq]
    exact readObject_eq_iff.2 ⟨body, members, tail, hv, htail, hes, rfl⟩

/-- The outline of a document is a closed list if the document is a list of values without
parts. -/
theorem outline_eq_list_iff {ns : List Node} : outline s = .list ns (.closed true) ↔
    ∃ vs, SpellsDocument s (.list vs) ∧
      List.Forall₂ (fun v n ↦ Value.node? v = some n) vs ns := by
  constructor
  · intro h
    obtain ⟨lead, hlead, hs⟩ := exists_blanks s.toList
    rw [outline] at h
    split at h
    next =>
      rw [readObject] at h
      split at h <;> cases h
    next rest hskip =>
      obtain ⟨body, vs, tail, hv, htail, hns, rfl⟩ := readList_eq_iff.1 h
      exact ⟨vs, spellsDocument_iff.2 ⟨lead, _, tail, hlead, hv, htail, by
        rw [hs, hskip]; simp⟩, hns⟩
    next => split at h <;> cases h
  · rintro ⟨vs, h, hns⟩
    obtain ⟨body, tail, hv, htail, heq⟩ := h.outline_list
    rw [heq]
    exact readList_eq_iff.2 ⟨body, vs, tail, hv, htail, hns, rfl⟩

/-- A document that is an object has no other members. -/
theorem SpellsDocument.forall₂_of_outline {members : List (String × Value)} {es : List Entry}
    (h : SpellsDocument s (.object members)) (houtline : outline s = .record es (.closed true)) :
    List.Forall₂ IsEntryOf members es := by
  obtain ⟨body, tail, hv, -, heq⟩ := h.outline_object
  exact forall₂_of_readObject hv (heq ▸ houtline)

theorem SpellsDocument.outline_ne_list {members : List (String × Value)}
    (h : SpellsDocument s (.object members)) (ns : List Node) (ending : Ending) :
    outline s ≠ .list ns ending := by
  obtain ⟨body, tail, -, -, heq⟩ := h.outline_object
  rw [heq, readObject]
  split <;> exact Outline.noConfusion

end Documents

end Fitout.Json
