import Fitout.Proofs.Command.Arguments
import Mathlib.Data.List.TakeWhile

/-!
# The flags on verbosity

The two flags on verbosity may stand anywhere among the options of a command line. A command line
falls into segments, of one argument or of two, and the items of a segment are the same whatever
surrounds it (`Item.Segmented`); each of the two flags is a segment of its own. So a command line
still asks for the same command when they are dropped from it, and what they say is told by whether
they stand in it (`Invocation.parse_unflagged`).
-/

namespace Fitout

/-! ### The arguments but for the flags -/

namespace Arguments

/-- The flags on verbosity, as they are written. -/
def verbosityFlags : List String :=
  ["--verbose", "--quiet"]

/-- The arguments that may be options: those before the first that is two hyphens. -/
def options (args : List String) : List String :=
  args.takeWhile (· != "--")

/-- The arguments without the flags on verbosity; after two hyphens there are no flags. -/
def unflagged (args : List String) : List String :=
  (options args).filter (· ∉ verbosityFlags) ++ args.dropWhile (· != "--")

/-- An argument that neither is a flag on verbosity nor ends the options. -/
def IsKept (arg : String) : Prop :=
  arg ≠ "--" ∧ arg ∉ verbosityFlags

variable {arg : String} {segment rest : List String}

theorem options_cons (h : arg ≠ "--") : options (arg :: rest) = arg :: options rest :=
  List.takeWhile_cons_of_pos (by simpa using h)

theorem options_append (h : ∀ a ∈ segment, a ≠ "--") :
    options (segment ++ rest) = segment ++ options rest :=
  List.takeWhile_append_of_pos (by simpa using h)

theorem unflagged_append (h : ∀ a ∈ segment, a ≠ "--") :
    unflagged (segment ++ rest) =
      segment.filter (· ∉ verbosityFlags) ++ unflagged rest := by
  rw [unflagged, options_append h, List.filter_append, List.append_assoc,
    List.dropWhile_append_of_pos (by simpa using h)]
  rfl

theorem unflagged_append_of_isKept (h : ∀ a ∈ segment, IsKept a) :
    unflagged (segment ++ rest) = segment ++ unflagged rest := by
  rw [unflagged_append fun a ha ↦ (h a ha).1, List.filter_eq_self.2]
  exact fun a ha ↦ decide_eq_true (h a ha).2

theorem unflagged_cons_of_mem (h : arg ∈ verbosityFlags) :
    unflagged (arg :: rest) = unflagged rest := by
  have hne : arg ≠ "--" := by
    rintro rfl
    revert h
    decide
  rw [← List.singleton_append, unflagged_append (by simpa using hne)]
  simp [h]

@[simp] theorem options_dashes : options ("--" :: rest) = [] := by
  simp [options]

@[simp] theorem unflagged_dashes : unflagged ("--" :: rest) = "--" :: rest := by
  simp [unflagged]

end Arguments

theorem Key.long_injective : Function.Injective Key.long := by
  intro k k' h
  cases k <;> cases k' <;> first | rfl | exact absurd h (by decide)

/-! ### The segments of a command line -/

namespace Item

open Arguments

/-- Whether an item is a flag on verbosity. -/
def tells : Item → Bool
  | flag .verbose | flag .quiet => true
  | _ => false

@[simp] theorem tells_option {k : Key} {value : String} : (option k value).tells = false := rfl

@[simp] theorem tells_operand {text : String} : (operand text).tells = false := rfl

@[simp] theorem tells_malformed : malformed.tells = false := rfl

theorem tells_awaiting (k : Key) (next? : Option String) : (awaiting k next?).tells = false := by
  unfold awaiting
  split
  · split <;> rfl
  · rfl

theorem tells_flag_iff {k : Key} : (flag k).tells = true ↔ k = .verbose ∨ k = .quiet := by
  cases k <;> simp [tells]

/-- The flags on verbosity by their names. -/
theorem mem_verbosityFlags_iff {k : Key} :
    "--" ++ k.long ∈ verbosityFlags ↔ (flag k).tells = true := by
  cases k <;> decide

theorem isKept_of_awaiting {k : Key} {next : String} (h : awaiting k (some next) ≠ malformed) :
    IsKept next := by
  constructor
  · rintro rfl
    exact h rfl
  · intro hmem
    simp only [verbosityFlags, List.mem_cons, List.not_mem_nil, or_false] at hmem
    rcases hmem with rfl | rfl <;> exact h rfl

/-- The items of a command line, segment by segment. -/
inductive Segmented (keys : List Key) : List String → List Item → Prop
  | nil : Segmented keys [] []
  /-- After two hyphens all arguments are operands. -/
  | dashes (rest : List String) : Segmented keys ("--" :: rest) (rest.map operand)
  /-- A flag on verbosity stands by itself. -/
  | flag {k : Key} {rest : List String} {items : List Item} (hk : (flag k).tells = true)
      (hrest : Segmented keys rest items) :
      Segmented keys (("--" ++ k.long) :: rest) (flag k :: items)
  /-- Any other segment gives the same items whatever comes after it. -/
  | kept {segment rest : List String} {front items : List Item}
      (hkept : ∀ a ∈ segment, IsKept a) (hfront : ∀ item ∈ front, item.tells = false)
      (hread : ∀ more, ofArguments keys (segment ++ more) = front ++ ofArguments keys more)
      (hrest : Segmented keys rest items) : Segmented keys (segment ++ rest) (front ++ items)

/-- The items found in an argument are the same whatever the next argument is, or they are but for
the last one, which waits for it. -/
def Waits (f : Option String → List Item × Bool) : Prop :=
  ∃ front, (∀ item ∈ front, item.tells = false) ∧
    ((∀ next?, f next? = (front, false)) ∨
      ∃ k, ∀ next?, f next? = (front ++ [awaiting k next?], true))

/-- A long name is that of a flag on verbosity, or its items wait. -/
theorem ofLong_cases (keys : List Key) (body : List Char) :
    (∃ k, (flag k).tells = true ∧ body = k.long.toList ∧
        ∀ next?, ofLong keys body next? = ([flag k], false)) ∨
      Waits (ofLong keys body) := by
  unfold ofLong
  split
  · exact .inr ⟨[malformed], by simp, .inl fun _ ↦ rfl⟩
  · next k hfind =>
    have hname : k.long.toList = body.takeWhile (· != '=') := by
      simpa using List.find?_some hfind
    split
    · next hdrop _ =>
      rcases htells : (flag k).tells with - | -
      · exact .inr ⟨[flag k], by simp [htells], .inl fun _ ↦ rfl⟩
      · refine .inl ⟨k, htells, ?_, fun _ ↦ rfl⟩
        rw [hname, ← List.append_nil (List.takeWhile _ _), ← hdrop, List.takeWhile_append_dropWhile]
    · exact .inr ⟨[], by simp, .inr ⟨k, fun _ ↦ rfl⟩⟩
    · exact .inr ⟨[option k _], by simp, .inl fun _ ↦ rfl⟩
    · exact .inr ⟨[malformed], by simp, .inl fun _ ↦ rfl⟩

/-- Flags on verbosity have no short names. -/
theorem tells_of_short {k : Key} {c : Char} (h : k.short? = some c) : (flag k).tells = false := by
  cases k <;> first | rfl | cases h

theorem waits_ofShort (keys : List Key) (cs : List Char) :
    Waits fun next? ↦ ofShort keys next? cs := by
  induction cs with
  | nil => exact ⟨[], by simp, .inl fun _ ↦ rfl⟩
  | cons c cs ih =>
    unfold ofShort
    split
    · exact ⟨[malformed], by simp, .inl fun _ ↦ rfl⟩
    · next k hfind =>
      split
      · split
        · exact ⟨[], by simp, .inr ⟨k, fun _ ↦ rfl⟩⟩
        · exact ⟨[option k _], by simp, .inl fun _ ↦ rfl⟩
        · exact ⟨[option k _], by simp, .inl fun _ ↦ rfl⟩
      · have hk := tells_of_short (k := k) (c := c) (by simpa using List.find?_some hfind)
        obtain ⟨front, hfront, hf | ⟨k', hf⟩⟩ := ih
        · exact ⟨flag k :: front, by simpa [hk] using hfront, .inl fun n ↦ by simp [hf n]⟩
        · exact ⟨flag k :: front, by simpa [hk] using hfront, .inr ⟨k', fun n ↦ by simp [hf n]⟩⟩

variable {keys : List Key} {k : Key}

theorem follow_front (keys : List Key) (front : List Item) (rest : List String) :
    ofArguments.follow keys (front, false) rest = front ++ ofArguments keys rest := by
  cases rest <;> simp [ofArguments.follow, ofArguments]

theorem ofArguments_long {arg : String} {body : List Char} (h : arg.toList = '-' :: '-' :: body)
    (hne : body ≠ []) (rest : List String) :
    ofArguments keys (arg :: rest) =
      ofArguments.follow keys (ofLong keys body rest.head?) rest := by
  rw [ofArguments]
  split <;> simp_all

/-- A flag on verbosity is read as such. -/
theorem ofArguments_flag (hk : (flag k).tells = true) (hmem : k ∈ keys) (rest : List String) :
    ofArguments keys (("--" ++ k.long) :: rest) = flag k :: ofArguments keys rest := by
  have hfind : keys.find? (·.long.toList == k.long.toList) = some k := by
    rcases h : keys.find? (·.long.toList == k.long.toList) with - | k'
    · exact absurd (List.find?_eq_none.1 h k hmem) (by simp)
    · have hname : k'.long.toList = k.long.toList := by simpa using List.find?_some h
      rw [h, Key.long_injective (String.toList_injective hname)]
  have hkey : k.long.toList ≠ [] ∧ k.long.toList.takeWhile (· != '=') = k.long.toList ∧
      k.long.toList.dropWhile (· != '=') = [] ∧ k.takesValue = false := by
    rcases tells_flag_iff.1 hk with rfl | rfl <;> decide
  obtain ⟨hne, hname, hvalue, htakes⟩ := hkey
  have hlong (next? : Option String) : ofLong keys k.long.toList next? = ([flag k], false) := by
    unfold ofLong
    rw [hname, hfind, hvalue]
    simp [htakes]
  rw [ofArguments_long (by simp) hne, hlong, follow_front]
  rfl

/-- An argument ends the options, is a flag on verbosity, or gives items of which only the last can
wait for the next argument. -/
theorem ofArguments_cons (hverbose : .verbose ∈ keys) (hquiet : .quiet ∈ keys) (arg : String) :
    (arg = "--" ∧ ∀ rest, ofArguments keys (arg :: rest) = rest.map operand) ∨
      (∃ k, (flag k).tells = true ∧ arg = "--" ++ k.long ∧
        ∀ rest, ofArguments keys (arg :: rest) = flag k :: ofArguments keys rest) ∨
      IsKept arg ∧ ∃ f, Waits f ∧
        ∀ rest, ofArguments keys (arg :: rest) = ofArguments.follow keys (f rest.head?) rest := by
  by_cases hdashes : arg = "--"
  · exact .inl ⟨hdashes, fun rest ↦ by simp [hdashes, ofArguments]⟩
  by_cases hflag : arg ∈ verbosityFlags
  · simp only [verbosityFlags, List.mem_cons, List.not_mem_nil, or_false] at hflag
    rcases hflag with rfl | rfl
    · exact .inr (.inl ⟨.verbose, rfl, rfl, ofArguments_flag rfl hverbose⟩)
    · exact .inr (.inl ⟨.quiet, rfl, rfl, ofArguments_flag rfl hquiet⟩)
  refine .inr (.inr ⟨⟨hdashes, hflag⟩, ?_⟩)
  simp only [ofArguments]
  split
  · next h => exact absurd (String.toList_injective h) hdashes
  · next body _ h =>
    rcases ofLong_cases keys body with ⟨k, hk, rfl, -⟩ | hwaits
    · have harg : arg = "--" ++ k.long := String.toList_injective (by simpa using h)
      exact absurd (harg ▸ mem_verbosityFlags_iff.2 hk) hflag
    · exact ⟨_, hwaits, fun _ ↦ rfl⟩
  · next c cs _ _ h => exact ⟨_, waits_ofShort keys (c :: cs), fun _ ↦ rfl⟩
  · exact ⟨fun _ ↦ ([operand arg], false), ⟨[operand arg], by simp, .inl fun _ ↦ rfl⟩,
      fun rest ↦ by rw [follow_front]; rfl⟩

/-- The items of a command line, unless it is malformed, come segment by segment. -/
theorem segmented_ofArguments (hverbose : .verbose ∈ keys) (hquiet : .quiet ∈ keys) :
    ∀ args, malformed ∉ ofArguments keys args → Segmented keys args (ofArguments keys args)
  | [], _ => by simpa [ofArguments] using .nil
  | arg :: rest, h => by
    obtain ⟨rfl, hread⟩ | ⟨k, hk, rfl, hread⟩ | ⟨harg, f, ⟨front, hfront, hf | ⟨k, hf⟩⟩, hread⟩ :=
      ofArguments_cons hverbose hquiet arg
    · rw [hread]
      exact .dashes rest
    · rw [hread] at h ⊢
      exact .flag hk (segmented_ofArguments hverbose hquiet rest fun hmem ↦
        h (List.mem_cons_of_mem _ hmem))
    · simp only [hf, follow_front] at hread
      rw [hread] at h ⊢
      show Segmented keys ([arg] ++ rest) _
      exact .kept (by simpa using harg) hfront hread
        (segmented_ofArguments hverbose hquiet rest fun hmem ↦
          h (List.mem_append_right _ hmem))
    · -- The argument waits for the next one, and the two make one segment.
      rcases rest with - | ⟨next, rest⟩
      · refine absurd ?_ h
        rw [hread, hf]
        simp [ofArguments.follow, awaiting]
      · have hread (more : List String) : ofArguments keys ([arg, next] ++ more) =
            (front ++ [awaiting k (some next)]) ++ ofArguments keys more := by
          show ofArguments keys (arg :: next :: more) = _
          rw [hread, hf]
          simp [ofArguments.follow]
        rw [show arg :: next :: rest = [arg, next] ++ rest from rfl, hread] at h ⊢
        have hnext : IsKept next := isKept_of_awaiting (k := k) fun hmalformed ↦
          h (by simp [hmalformed])
        refine .kept (by simp [harg, hnext]) ?_ hread
          (segmented_ofArguments hverbose hquiet rest fun hmem ↦
            h (List.mem_append_right _ hmem))
        simpa [or_imp, forall_and, tells_awaiting] using hfront


/-! ### What the segments tell -/

/-- Without the flags on verbosity, the items are the same but for these flags. -/
theorem Segmented.ofArguments_unflagged {args : List String} {items : List Item}
    (h : Segmented keys args items) :
    ofArguments keys (unflagged args) = items.filter (!·.tells) := by
  induction h with
  | nil => simp [unflagged, options, ofArguments]
  | dashes rest =>
    rw [unflagged_dashes, List.filter_eq_self.2 (by simp)]
    simp [ofArguments]
  | flag hk hrest ih =>
    rw [unflagged_cons_of_mem (mem_verbosityFlags_iff.2 hk), ih,
      List.filter_cons_of_neg (by simp [hk])]
  | @kept segment rest front items hkept hfront hread hrest ih =>
    have hall : front.filter (!·.tells) = front := List.filter_eq_self.2 (by simpa using hfront)
    rw [unflagged_append_of_isKept hkept, hread, ih, List.filter_append, hall]

/-- The items have a flag on verbosity if it stands among the options. -/
theorem Segmented.mem_iff {args : List String} {items : List Item}
    (h : Segmented keys args items) (hk : (Item.flag k).tells = true) :
    Item.flag k ∈ items ↔ "--" ++ k.long ∈ options args := by
  induction h with
  | nil => simp [options]
  | dashes rest => simp
  | @flag k' rest items hk' hrest ih =>
    have hne : "--" ++ k'.long ≠ "--" := by
      rcases tells_flag_iff.1 hk' with rfl | rfl <;> decide
    have hname : "--" ++ k.long = "--" ++ k'.long ↔ k = k' := by
      rw [String.append_right_inj, Key.long_injective.eq_iff]
    simp [options_cons hne, ih, hname]
  | @kept segment rest front items hkept hfront hread hrest ih =>
    have hsegment : "--" ++ k.long ∉ segment := fun hmem ↦
      (hkept _ hmem).2 (mem_verbosityFlags_iff.2 hk)
    have hnot : Item.flag k ∉ front := fun hmem ↦ by simp [hfront _ hmem] at hk
    rw [options_append fun a ha ↦ (hkept a ha).1]
    simp [hsegment, hnot, ih]

end Item

/-! ### What is gathered without the flags -/

namespace Gathered

open Arguments

/-- What was gathered, but for the flags on verbosity. -/
def hush (g : Gathered) : Gathered :=
  { g with verbose := false, quiet := false }

variable {v : Verb} {g g' : Gathered} {item : Item} {items : List Item}

/-- The command does not depend on the flags on verbosity. -/
theorem command_hush (v : Verb) (g : Gathered) : g.hush.command? v = g.command? v := by
  cases v <;> rfl

theorem option_hush (g : Gathered) (value : String) (k : Key) :
    g.hush.option value k = (g.option value k).map hush := by
  cases k <;> first | rfl | (simp only [option, hush]; cases once _ _ <;> rfl)

theorem flag_hush (g : Gathered) {k : Key} (hk : (Item.flag k).tells = false) :
    g.hush.flag k = (g.flag k).map hush := by
  cases k <;> first
    | rfl
    | exact absurd hk (by decide)
    | (simp only [flag, hush]; cases raise _ <;> rfl)

/-- Any other item is taken as if there were no flags on verbosity, and changes none. -/
theorem take_hush (v : Verb) (g : Gathered) (hitem : item.tells = false) :
    g.hush.take v item = (g.take v item).map hush := by
  cases item with
  | flag k => exact flag_hush g hitem
  | option k value => exact option_hush g value k
  | operand text =>
    show (if admits v g.operands.length text then _ else _) = Except.map hush (if _ then _ else _)
    split <;> rfl
  | malformed => rfl

theorem raise_eq_ok_iff {old new : Bool} : raise old = .ok new ↔ old = false ∧ new = true := by
  cases old <;> simp [raise, eq_comm]

/-- The flags on verbosity that were given. -/
def told (g : Gathered) : Bool × Bool :=
  (g.verbose, g.quiet)

theorem told_of_option {value : String} {k : Key} (h : g.option value k = .ok g') :
    g'.told = g.told := by
  unfold option at h
  split at h
  all_goals
    first
    | cases h
    | obtain ⟨_, -, heq⟩ := Except.bind_eq_ok_iff.1 h
      cases heq
      rfl

theorem told_of_flag {k : Key} (h : g.flag k = .ok g') :
    g'.told = (g.verbose || k = .verbose, g.quiet || k = .quiet) := by
  unfold flag at h
  split at h
  all_goals
    first
    | cases h
    | obtain ⟨new, hnew, heq⟩ := Except.bind_eq_ok_iff.1 h
      obtain ⟨-, rfl⟩ := raise_eq_ok_iff.1 hnew
      cases heq
      simp [told]

/-- What is told is told by the items. -/
theorem told_of_take (h : g.take v item = .ok g') :
    g'.told = (g.verbose || item = .flag .verbose, g.quiet || item = .flag .quiet) := by
  cases item with
  | flag k => simpa using told_of_flag h
  | option k value => simpa [told] using told_of_option h
  | operand text =>
    simp only [take] at h
    split at h
    · cases h
      simp [told]
    · cases h
  | malformed => cases h

/-- A flag on verbosity changes nothing else. -/
theorem hush_of_take (h : g.take v item = .ok g') (hitem : item.tells = true) :
    g'.hush = g.hush := by
  cases item with
  | flag k =>
    rcases Item.tells_flag_iff.1 hitem with rfl | rfl
    all_goals
      obtain ⟨_, -, heq⟩ := Except.bind_eq_ok_iff.1 h
      cases heq
      rfl
  | option k value => cases hitem
  | operand text => cases hitem
  | malformed => cases hitem

/-- What is gathered without the flags on verbosity is the same but for them. -/
theorem foldlM_hush (h : items.foldlM (take v) g = .ok g') :
    (items.filter (!·.tells)).foldlM (take v) g.hush = .ok g'.hush := by
  induction items generalizing g with
  | nil =>
    cases h
    rfl
  | cons item items ih =>
    rw [List.foldlM_cons, Except.bind_eq_ok_iff] at h
    obtain ⟨next, hnext, h⟩ := h
    rcases hitem : item.tells with - | -
    · rw [List.filter_cons_of_pos (by simp [hitem]), List.foldlM_cons, take_hush v g hitem, hnext]
      exact ih h
    · rw [List.filter_cons_of_neg (by simp [hitem]), ← hush_of_take hnext hitem]
      exact ih h

theorem told_of_foldlM (h : items.foldlM (take v) g = .ok g') :
    g'.told = (g.verbose || .flag .verbose ∈ items, g.quiet || .flag .quiet ∈ items) := by
  induction items generalizing g with
  | nil =>
    cases h
    simp [told]
  | cons item items ih =>
    rw [List.foldlM_cons, Except.bind_eq_ok_iff] at h
    obtain ⟨next, hnext, h⟩ := h
    have htold := told_of_take hnext
    simp only [told, Prod.mk.injEq] at htold
    rw [ih h, htold.1, htold.2]
    simp [Bool.or_assoc, eq_comm]

/-- If something is gathered, nothing was malformed. -/
theorem not_malformed_of_foldlM (h : items.foldlM (take v) g = .ok g') : .malformed ∉ items := by
  induction items generalizing g with
  | nil => simp
  | cons item items ih =>
    rw [List.foldlM_cons, Except.bind_eq_ok_iff] at h
    obtain ⟨next, hnext, h⟩ := h
    have hne : .malformed ≠ item := by
      rintro rfl
      cases hnext
    simp [hne, ih h]

/-- What the arguments of a verb give does not depend on the flags on verbosity, and these are the
ones that stand among the options. -/
theorem foldlM_unflagged {keys : List Key} (hverbose : .verbose ∈ keys) (hquiet : .quiet ∈ keys)
    {args : List String} (h : (Item.ofArguments keys args).foldlM (take v) {} = .ok g) :
    (Item.ofArguments keys (unflagged args)).foldlM (take v) {} = .ok g.hush ∧
      g.told = (decide ("--verbose" ∈ options args), decide ("--quiet" ∈ options args)) := by
  have hsegments := Item.segmented_ofArguments hverbose hquiet args (not_malformed_of_foldlM h)
  constructor
  · rw [hsegments.ofArguments_unflagged]
    exact foldlM_hush h
  · have htold : .flag .verbose ∈ Item.ofArguments keys args ↔ "--verbose" ∈ options args :=
      hsegments.mem_iff rfl
    have htold' : .flag .quiet ∈ Item.ofArguments keys args ↔ "--quiet" ∈ options args :=
      hsegments.mem_iff rfl
    simp [told_of_foldlM h, htold, htold']

end Gathered

/-! ### Command lines -/

namespace Invocation

open Arguments

/-- **The flags on verbosity do not change the command.** Without them the arguments ask for the
same command, and they are set if they stand among the options. -/
theorem parse_unflagged {args : List String} {inv : Invocation} (h : parse args = .ok inv) :
    parse (unflagged args) = .ok { inv with verbose := false, quiet := false } ∧
      inv.verbose = decide ("--verbose" ∈ options args) ∧
      inv.quiet = decide ("--quiet" ∈ options args) := by
  obtain ⟨before, word, rest, v, given, hbefore, hdrop, hv, hgiven, command, hcommand, rfl⟩ :=
    parse_eq_ok_iff.1 h
  obtain ⟨hbefore, htold⟩ := Gathered.foldlM_unflagged (by decide) (by decide) hbefore
  obtain ⟨hgiven, htold'⟩ := Gathered.foldlM_unflagged (by cases v <;> decide)
    (by cases v <;> decide) hgiven
  have hargs : args = args.takeWhile isLeading ++ word :: rest := by
    rw [← hdrop, List.takeWhile_append_dropWhile]
  have hleading : ∀ a ∈ args.takeWhile isLeading, isLeading a = true := fun a ↦
    List.mem_takeWhile_imp
  generalize args.takeWhile isLeading = lead at *
  subst hargs
  have hdashes : ∀ a ∈ lead, a ≠ "--" := by
    rintro a ha rfl
    exact absurd (hleading _ ha) (by decide)
  obtain ⟨hword, hkept⟩ : isLeading word = false ∧ IsKept word := by
    obtain rfl : v.name = word := by simpa using List.find?_some hv
    cases v <;> exact ⟨by decide, by decide, by decide⟩
  have hunflagged : unflagged lead = lead.filter (· ∉ verbosityFlags) := by
    simpa [unflagged, options] using @unflagged_append lead [] hdashes
  have hsplit : unflagged (lead ++ word :: rest) = unflagged lead ++ word :: unflagged rest := by
    rw [unflagged_append hdashes, ← hunflagged, ← List.singleton_append,
      unflagged_append_of_isKept (by simpa using hkept), List.singleton_append]
  have hall : ∀ a ∈ unflagged lead, isLeading a = true := fun a ha ↦
    hleading a (List.mem_of_mem_filter (hunflagged ▸ ha))
  have hlead : options lead = lead := List.takeWhile_eq_self_iff.2 (by simpa using hdashes)
  have hoptions : options (lead ++ word :: rest) = lead ++ word :: options rest := by
    rw [options_append hdashes, options_cons hkept.1]
  have hne : "--verbose" ≠ word ∧ "--quiet" ≠ word := by
    simpa [verbosityFlags, eq_comm] using hkept.2
  simp only [Gathered.told, Prod.mk.injEq, hlead] at htold htold'
  refine ⟨parse_eq_ok_iff.2 ⟨before.hush, word, unflagged rest, v, given.hush, ?_, ?_, hv, hgiven,
    command, given.command_hush v ▸ hcommand, rfl⟩, ?_, ?_⟩
  · rw [hsplit, List.takeWhile_append_of_pos hall, List.takeWhile_cons_of_neg (by simp [hword]),
      List.append_nil]
    exact hbefore
  · rw [hsplit, List.dropWhile_append_of_pos hall, List.dropWhile_cons_of_neg (by simp [hword])]
  · simp [hoptions, htold.1, htold'.1, hne.1]
  · simp [hoptions, htold.2, htold'.2, hne.2]

end Invocation

end Fitout
