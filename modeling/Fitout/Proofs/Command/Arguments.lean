import Fitout.Command.Arguments
import Fitout.Proofs.Ends

/-!
# What a command line can ask for

The items of a command line use only the keys of its verb (`Item.uses_ofArguments`), so what is
gathered from them has nothing to do with the other keys. In particular a set takes no path for its
output; if it writes a file at all, it is the one that it reads (`Invocation.writesBack_of_parse`).
-/

namespace Fitout

/-! ### The keys of the items -/

namespace Item

/-- An item uses no key but some. -/
def Uses (keys : List Key) : Item → Prop
  | .flag k | .option k _ => k ∈ keys
  | .operand _ | .malformed => True

variable {keys : List Key} {k : Key} {next? : Option String}

@[simp] theorem uses_flag : (flag k).Uses keys ↔ k ∈ keys := Iff.rfl

@[simp] theorem uses_option {value : String} : (option k value).Uses keys ↔ k ∈ keys := Iff.rfl

@[simp] theorem uses_operand {text : String} : (operand text).Uses keys := trivial

@[simp] theorem uses_malformed : malformed.Uses keys := trivial

theorem uses_awaiting (hk : k ∈ keys) : (awaiting k next?).Uses keys := by
  unfold awaiting
  split
  · split
    · trivial
    · exact hk
  · trivial

theorem uses_ofLong (body : List Char) : ∀ item ∈ (ofLong keys body next?).1, item.Uses keys := by
  unfold ofLong
  split
  · simp
  · next k hfind =>
    have hk := List.mem_of_find?_eq_some hfind
    split <;> simp [hk, uses_awaiting hk]

theorem uses_ofShort (cs : List Char) : ∀ item ∈ (ofShort keys next? cs).1, item.Uses keys := by
  induction cs with
  | nil => simp [ofShort]
  | cons c cs ih =>
    unfold ofShort
    split
    · simp
    · next k hfind =>
      have hk := List.mem_of_find?_eq_some hfind
      split
      · split <;> simp [hk, uses_awaiting hk]
      · simpa [hk] using ih

/-- The items after a verb use the keys of the verb. -/
theorem uses_ofArguments (keys : List Key) (args : List String) :
    ∀ item ∈ ofArguments keys args, item.Uses keys := by
  refine ofArguments.induct_unfolding keys
    (fun found _ items ↦ (∀ item ∈ found.1, item.Uses keys) → ∀ item ∈ items, item.Uses keys)
    (fun _ items ↦ ∀ item ∈ items, item.Uses keys) ?_ ?_ ?_ ?_ ?_ ?_ ?_ args
  · exact fun found h ↦ h
  · intro found next rest htaken hleft h item hitem
    rcases List.mem_append.1 hitem with hitem | hitem
    · exact h item hitem
    · split at hitem
      · exact htaken item hitem
      · exact hleft item hitem
  · simp
  · simp
  · exact fun next rest body _ _ h ↦ h (uses_ofLong body)
  · exact fun next rest c cs _ _ _ h ↦ h (uses_ofShort (c :: cs))
  · intro next rest _ _ _ h item hitem
    rcases List.mem_cons.1 hitem with rfl | hitem
    · trivial
    · exact h item hitem

end Item

/-! ### What is gathered -/

namespace Gathered

variable {v : Verb} {g g' : Gathered} {item : Item}

/-- A flag gives no path for the output. -/
theorem output_of_flag {k : Key} (h : g.flag k = .ok g') : g'.output = g.output := by
  unfold flag at h
  split at h
  all_goals
    first
    | cases h
    | obtain ⟨_, -, heq⟩ := Except.bind_eq_ok_iff.1 h
      cases heq
      rfl

/-- Only the option for it gives a path for the output. -/
theorem output_of_option {k : Key} {value : String} (h : g.option value k = .ok g')
    (hk : k ≠ .output) : g'.output = g.output := by
  unfold option at h
  split at h
  all_goals
    first
    | exact absurd rfl hk
    | cases h
    | obtain ⟨_, -, heq⟩ := Except.bind_eq_ok_iff.1 h
      cases heq
      rfl

theorem output_of_take (h : g.take v item = .ok g') (hitem : item.Uses v.keys)
    (hkey : .output ∉ v.keys) : g'.output = g.output := by
  cases item with
  | flag k => exact output_of_flag h
  | option k value => exact output_of_option h fun hk ↦ hkey (hk ▸ hitem)
  | operand text =>
    simp only [take] at h
    split at h
    · cases h
      rfl
    · cases h
  | malformed => cases h

/-- A verb without that option gathers no path for the output. -/
theorem output_of_foldlM {items : List Item} (h : items.foldlM (take v) g = .ok g')
    (hitems : ∀ item ∈ items, item.Uses v.keys) (hkey : .output ∉ v.keys) :
    g'.output = g.output := by
  induction items generalizing g with
  | nil =>
    cases h
    rfl
  | cons item items ih =>
    rw [List.foldlM_cons, Except.bind_eq_ok_iff] at h
    obtain ⟨next, hnext, h⟩ := h
    have hhead := output_of_take hnext (hitems item List.mem_cons_self) hkey
    exact (ih h fun i hi ↦ hitems i (List.mem_cons_of_mem item hi)).trans hhead

end Gathered

/-! ### Commands -/

/-- A set that writes a file writes back the one it reads. -/
def Command.WritesBack : Command → Prop
  | .set file _ (.file path) => path = file
  | _ => True

/-- Without a path for the output, a set writes back. -/
theorem Gathered.writesBack_of_command {v : Verb} {g : Gathered} {c : Command}
    (h : g.command? v = some c) (houtput : v = .set → g.output = none) : c.WritesBack := by
  unfold command? at h
  split at h
  · simp only [Option.bind_eq_bind, Option.bind_eq_some_iff] at h
    obtain ⟨id, -, brand, -, engine, -, hc⟩ := h
    cases hc
    trivial
  · cases h
    trivial
  · next file assignment more _ =>
    cases h
    by_cases hplace : g.inPlace = true
    · simp [hplace, Command.WritesBack]
    · simp [hplace, target, houtput rfl, Command.WritesBack]
  · cases h
    trivial
  · obtain ⟨shell, -, rfl⟩ := Option.map_eq_some_iff.1 h
    trivial
  · cases h

/-- A command line is read if the arguments before its verb and those after it give something, and
what the ones after it give is enough for a command. -/
theorem Invocation.parse_eq_ok_iff {args : List String} {inv : Invocation} :
    parse args = .ok inv ↔ ∃ before word rest v given,
      (Item.ofArguments Key.leading (args.takeWhile isLeading)).foldlM (Gathered.take .create) {} =
          .ok before ∧
        args.dropWhile isLeading = word :: rest ∧ Verb.ofName? word = some v ∧
        (Item.ofArguments v.keys rest).foldlM (Gathered.take v) {} = .ok given ∧
        ∃ command, given.command? v = some command ∧
          inv = ⟨before.verbose || given.verbose, before.quiet || given.quiet, command⟩ := by
  unfold parse
  simp only [Except.bind_eq_ok_iff]
  constructor
  · rintro ⟨before, hbefore, h⟩
    split at h
    · cases h
    · next word rest hword =>
      split at h
      · cases h
      · split at h
        · cases h
        · next v hv =>
          obtain ⟨given, hgiven, h⟩ := Except.bind_eq_ok_iff.1 h
          split at h
          · cases h
          · next command hcommand =>
            cases h
            exact ⟨before, word, rest, v, given, hbefore, hword, hv, hgiven, command, hcommand, rfl⟩
  · rintro ⟨before, word, rest, v, given, hbefore, hword, hv, hgiven, command, hcommand, rfl⟩
    have hhelp : (word == "help") = false := by
      rw [beq_eq_false_iff_ne]
      rintro rfl
      have hnone : Verb.ofName? "help" = none := by decide
      cases hnone.symm.trans hv
    refine ⟨before, hbefore, ?_⟩
    rw [hword]
    simp only [hhelp, hv, hgiven]
    rw [if_neg Bool.false_ne_true, Except.bind_eq_ok_iff]
    exact ⟨given, rfl, by rw [hcommand]; rfl⟩

/-- A set that is read from a command line writes back. -/
theorem Invocation.writesBack_of_parse {args : List String} {inv : Invocation}
    (h : parse args = .ok inv) : inv.command.WritesBack := by
  obtain ⟨-, -, rest, v, given, -, -, -, hgiven, command, hcommand, rfl⟩ := parse_eq_ok_iff.1 h
  refine Gathered.writesBack_of_command hcommand fun hset ↦ ?_
  subst hset
  exact Gathered.output_of_foldlM hgiven (Item.uses_ofArguments _ rest) (by decide)

end Fitout
