import Fitout.Command.Run
import Fitout.Proofs.Ends

/-!
# What programs do to worlds

Most steps of a command look at the files and the variables and change nothing: what comes of such a
step is told by what it sees, and the world after it is the same but for what was said (`Looks`). A
command as a whole also prints or writes, once at most and as the last thing that can fail. So a
command that fails has only looked, and one that succeeds has printed a text and left a tree
(`Does`).

Both are told for every world that shows a tree and an environment, whatever has been said and
printed there before, and both are found by the steps of a program: what looks first and does
something then does it all (`Does.bind`).
-/

namespace Fitout

open Program (answer)

/-! ### Worlds -/

namespace World

/-- What a program sees of a world: the tree and the variables. -/
structure Shows (w : World) (t : Tree) (env : Environment) : Prop where
  tree : w.tree = t
  environment : w.environment = env

/-- The world after a text on standard output and with the files of a tree, or the same world after
a failure. -/
def receive {ε : Type} (w : World) : Except ε (String × Tree) → World
  | .ok (text, t) => { w with stdout := w.stdout ++ text, tree := t }
  | .error _ => w

variable {w : World} {t : Tree} {env : Environment}

@[simp] theorem say_empty (w : World) : w.say "" = w := by
  simp [say]

@[simp] theorem say_say (w : World) (said more : String) :
    (w.say said).say more = w.say (said ++ more) := by
  simp [say, String.append_assoc]

theorem Shows.say (h : w.Shows t env) (said : String) : (w.say said).Shows t env :=
  ⟨h.tree, h.environment⟩

@[simp] theorem receive_say {ε : Type} (w : World) (said : String)
    (r : Except ε (String × Tree)) : (w.say said).receive r = (w.receive r).say said := by
  rcases r with e | out <;> rfl

/-- A record is at most something that is said. -/
theorem exists_record_eq_say (w : World) (r : Record) : ∃ said, w.record r = w.say said := by
  unfold record
  split
  · exact ⟨_, rfl⟩
  · exact ⟨"", w.say_empty.symm⟩

end World

/-! ### Programs that look -/

section

variable {ε ε' α β : Type} {t : Tree} {env : Environment}

/-- Wherever a program sees a tree and an environment it has some result, and all that it leaves is
what it says. -/
def Looks (t : Tree) (env : Environment) (p : Program World ε α) (r : Except ε α) : Prop :=
  ∀ w : World, w.Shows t env → ∃ said, answer p w = (r, w.say said)

theorem looks_pure (a : α) : Looks t env (pure a : Program World ε α) (.ok a) :=
  fun w _ ↦ ⟨"", by simp⟩

theorem looks_ofExcept (r : Except ε α) : Looks t env (ofExcept r : Program World ε α) r :=
  fun w _ ↦ ⟨"", by simp⟩

theorem looks_throw (e : ε) : Looks t env (throw e : Program World ε α) (.error e) :=
  fun w _ ↦ ⟨"", by simp⟩

/-! What a host can be asked for without a change: -/

theorem looks_holds (path : Path) :
    Looks t env (Host.holds path : Program World ε Bool) (.ok (t.holds path)) := by
  rintro w ⟨rfl, -⟩
  exact ⟨"", by rw [w.say_empty]; rfl⟩

theorem looks_read (path : Path) :
    Looks t env (Host.read path : Program World ε (Except FileError ByteArray))
      (.ok (t.read path)) := by
  rintro w ⟨rfl, -⟩
  exact ⟨"", by rw [w.say_empty]; rfl⟩

theorem looks_environment :
    Looks t env (Host.environment : Program World ε Environment) (.ok env) := by
  rintro w ⟨-, rfl⟩
  exact ⟨"", by rw [w.say_empty]; rfl⟩

theorem looks_record (r : Record) :
    Looks t env (Host.record r : Program World ε Unit) (.ok ()) := by
  intro w _
  obtain ⟨said, hsaid⟩ := w.exists_record_eq_say r
  exact ⟨said, by rw [← hsaid]; rfl⟩

theorem looks_tell (line : String) :
    Looks t env (Host.tell line : Program World ε Unit) (.ok ()) :=
  fun _ _ ↦ ⟨line ++ "\n", rfl⟩

namespace Looks

variable {p : Program World ε α} {r : Except ε α}

/-- A step that looks may follow another. -/
theorem bind {k : α → Program World ε β} {g : α → Except ε β} (h : Looks t env p r)
    (hk : ∀ a, Looks t env (k a) (g a)) : Looks t env (p >>= k) (r >>= g) := by
  intro w hw
  obtain ⟨said, hp⟩ := h w hw
  rw [Program.answer_bind, hp]
  rcases r with e | a
  · exact ⟨said, rfl⟩
  · obtain ⟨more, hmore⟩ := hk a _ (hw.say said)
    exact ⟨said ++ more, by rw [← w.say_say]; exact hmore⟩

/-- After a step that fails nothing more is done. -/
theorem stop {e : ε} {k : α → Program World ε β} (h : Looks t env p (.error e)) :
    Looks t env (p >>= k) (.error e) := by
  intro w hw
  obtain ⟨said, hp⟩ := h w hw
  exact ⟨said, by rw [Program.answer_bind, hp]⟩

/-- A step that always succeeds, with a known value. -/
theorem next {a : α} {k : α → Program World ε β} {s : Except ε β} (h : Looks t env p (.ok a))
    (hk : Looks t env (k a) s) : Looks t env (p >>= k) s := by
  intro w hw
  obtain ⟨said, hp⟩ := h w hw
  obtain ⟨more, hmore⟩ := hk _ (hw.say said)
  rw [Program.answer_bind, hp]
  exact ⟨said ++ more, by rw [← w.say_say]; exact hmore⟩

theorem adapt (h : Looks t env p r) (f : ε → ε') :
    Looks t env (ExceptT.adapt f p) (r.mapError f) := by
  intro w hw
  obtain ⟨said, hp⟩ := h w hw
  exact ⟨said, by rw [Program.answer_adapt, hp]⟩

/-- The result of a step may also be looked at whatever it is. -/
theorem lift (h : Looks t env p r) :
    Looks t env (ExceptT.lift p.run : Program World ε' (Except ε α)) (.ok r) := by
  intro w hw
  obtain ⟨said, hp⟩ := h w hw
  have hrun : Id.run (StateT.run p.run w) = (r, w.say said) := hp
  exact ⟨said, by rw [Program.answer_lift, hrun]⟩

/-- The same step for each member of a list. -/
theorem mapM {γ : Type} {f : γ → Program World ε α} {g : γ → Except ε α}
    (h : ∀ c, Looks t env (f c) (g c)) (cs : List γ) : Looks t env (cs.mapM f) (cs.mapM g) := by
  induction cs with
  | nil => exact looks_pure []
  | cons c cs ih =>
    rw [List.mapM_cons, List.mapM_cons]
    exact (h c).bind fun a ↦ ih.bind fun as ↦ looks_pure (a :: as)

theorem forM {γ : Type} {f : γ → Program World ε Unit} (h : ∀ c, Looks t env (f c) (.ok ()))
    (cs : List γ) : Looks t env (cs.forM f) (.ok ()) := by
  induction cs with
  | nil => exact looks_pure ()
  | cons c cs ih => exact (h c).bind fun _ ↦ ih

end Looks

theorem looks_records (rs : List Record) :
    Looks t env (Host.records rs : Program World ε Unit) (.ok ()) :=
  .forM looks_record rs

theorem looks_tellAll (lines : List String) :
    Looks t env (Host.tellAll lines : Program World ε Unit) (.ok ()) :=
  .forM looks_tell lines

/-! ### Programs that do something at the end -/

/-- Wherever a program sees a tree and an environment it fails, having done nothing, or it has
printed some text and leaves some tree. -/
def Does (t : Tree) (env : Environment) (p : Program World ε Unit) (r : Except ε (String × Tree)) :
    Prop :=
  ∀ w : World, w.Shows t env →
    ∃ said, answer p w = (r.map fun _ ↦ (), (w.receive r).say said)

theorem does_pure : Does t env (pure () : Program World ε Unit) (.ok ("", t)) := by
  rintro w ⟨rfl, -⟩
  exact ⟨"", by rw [World.say_empty, World.receive, String.append_empty]; rfl⟩

theorem does_print (text : String) :
    Does t env (Host.print text : Program World ε Unit) (.ok (text, t)) := by
  rintro w ⟨rfl, -⟩
  exact ⟨"", by rw [World.say_empty]; rfl⟩

/-- What is to be written is written, or the failure of the write is that of the program. -/
theorem does_write (path : Path) (content : ByteArray) (f : FileError → ε) :
    Does t env (do ofExcept ((← Host.write path content).mapError f) : Program World ε Unit)
      (((t.write path content).map fun after ↦ ("", after)).mapError f) := by
  rintro w ⟨rfl, -⟩
  have hwrite : answer (Host.write path content : Program World ε (Except FileError Unit)) w =
      (.ok ((w.tree.write path content).map fun _ ↦ ()),
        w.receive ((w.tree.write path content).map fun after ↦ ("", after))) := by
    show answer (ExceptT.lift (Host.write path content)) w = _
    rw [Program.answer_lift, World.run_write]
    rcases w.tree.write path content with e | after
    · rfl
    · simp [Except.map, World.receive, Id.run]
  refine ⟨"", ?_⟩
  rw [Program.answer_bind, hwrite]
  rcases w.tree.write path content with e | after <;> simp [Except.map, Except.mapError] <;> rfl

namespace Does

variable {p : Program World ε Unit} {r : Except ε (String × Tree)}

/-- What looks, and then does something, does it all. -/
theorem bind {q : Program World ε α} {k : α → Program World ε Unit} {s : Except ε α}
    {g : α → Except ε (String × Tree)} (h : Looks t env q s) (hk : ∀ a, Does t env (k a) (g a)) :
    Does t env (q >>= k) (s >>= g) := by
  intro w hw
  obtain ⟨said, hq⟩ := h w hw
  rw [Program.answer_bind, hq]
  rcases s with e | a
  · exact ⟨said, rfl⟩
  · obtain ⟨more, hmore⟩ := hk a _ (hw.say said)
    exact ⟨said ++ more, hmore.trans (by rw [World.receive_say, World.say_say]; rfl)⟩

theorem adapt (h : Does t env p r) (f : ε → ε') :
    Does t env (ExceptT.adapt f p) (r.mapError f) := by
  intro w hw
  obtain ⟨said, hp⟩ := h w hw
  refine ⟨said, ?_⟩
  rw [Program.answer_adapt, hp]
  rcases r with e | out <;> rfl

theorem next {q : Program World ε α} {a : α} {k : α → Program World ε Unit}
    (h : Looks t env q (.ok a)) (hk : Does t env (k a) r) : Does t env (q >>= k) r := by
  intro w hw
  obtain ⟨said, hq⟩ := h w hw
  obtain ⟨more, hmore⟩ := hk _ (hw.say said)
  rw [Program.answer_bind, hq]
  exact ⟨said ++ more, hmore.trans (by rw [World.receive_say, World.say_say])⟩

/-- What only looks, and then fails, has done nothing. -/
theorem of_looks {e : ε} (h : Looks t env p (.error e)) : Does t env p (.error e) :=
  h

/-- What is said afterwards does not matter. -/
theorem andThen {q : Program World ε Unit} (h : Does t env p r)
    (hq : ∀ t env, Looks t env q (.ok ())) : Does t env (do p; q) r := by
  intro w hw
  obtain ⟨said, hp⟩ := h w hw
  rw [Program.answer_bind, hp]
  rcases r with e | out
  · exact ⟨said, rfl⟩
  · obtain ⟨more, hmore⟩ := hq _ _ ((w.receive (.ok out : Except ε _)).say said) ⟨rfl, rfl⟩
    exact ⟨said ++ more, hmore.trans (by rw [World.say_say]; rfl)⟩

end Does

end

end Fitout
