import Fitout.Proofs.Document.Check

/-!
# Two readers of cars

A car is read from a document either into a raw sheet, which is checked at the end, or into a
checked sheet, where each value is checked as soon as it is read. The two stop at different places
of a bad document, and yet they accept the same documents.

The two readers are run side by side. As long as every value is accepted, the checked draft is the
check of the raw one (`Draft.Checks`), and both readers meet the same faults. Once a value is
refused, the checked reader has stopped, and the raw draft keeps the value to its end
(`Draft.Refuses`), since no field is read twice; so if the raw reader gets to the end, its sheet
does not pass the check. `Sheet.Agrees` sums up what can come of this.

Main statement: `Car.ofDocument_agrees_decode`.
-/

namespace Fitout

theorem Field.name_injective : Function.Injective Field.name := by
  intro f g h
  have hf := ofName?_name f
  rw [h, ofName?_name] at hf
  exact (Option.some.inj hf).symm

namespace Sheet

/-! ### Slots by field -/

section Slots

variable {I B E C S A : Type}

/-- The slot of a field. -/
def slot (r : Readers I B E C S A) : Field → Slot (Draft I B E C S A)
  | .id => ⟨Field.id.name, fun n d ↦ (r.id n).map fun v ↦ { d with id := some v }⟩
  | .brand => ⟨Field.brand.name, fun n d ↦ (r.brand n).map fun v ↦ { d with brand := some v }⟩
  | .engine => ⟨Field.engine.name, fun n d ↦ (r.engine n).map fun v ↦ { d with engine := some v }⟩
  | .camera =>
    ⟨Field.camera.name, fun n d ↦ (n.optional r.camera).map fun v ↦ { d with camera := v }⟩
  | .smartphone =>
    ⟨Field.smartphone.name,
      fun n d ↦ (n.optional r.smartphone).map fun v ↦ { d with smartphone := v }⟩
  | .adas => ⟨Field.adas.name, fun n d ↦ (n.optional r.adas).map fun v ↦ { d with adas := v }⟩

theorem slots_shape (r : Readers I B E C S A) : (shape r).slots = Field.all.map (slot r) :=
  rfl

/-- The slot of a key is that of the field with this name. -/
theorem find?_slots (r : Readers I B E C S A) (key : String) :
    (shape r).slots.find? (·.name == key) =
      (Field.all.find? (·.name == key)).map (slot r) := by
  have hname : (fun f ↦ (slot r f).name == key) = fun f : Field ↦ f.name == key := by
    funext f
    cases f <;> rfl
  rw [slots_shape, List.find?_map]
  exact congrArg (fun p ↦ (Field.all.find? p).map (slot r)) hname

theorem find?_slot (r : Readers I B E C S A) (f : Field) :
    (shape r).slots.find? (·.name == f.name) = some (slot r f) := by
  cases f <;> rfl

end Slots

/-! ### One value -/

/-- What can come of a value that is read without and with its check. -/
inductive Checking {α β : Type} (check : α → Except Rejection β) :
    Except Fault α → Except Fault β → Prop
  /-- The value is accepted. -/
  | accepted {a : α} {b : β} (h : check a = .ok b) : Checking check (.ok a) (.ok b)
  /-- The value is refused. -/
  | refused {a : α} {r : Rejection} (h : check a = .error r) :
    Checking check (.ok a) (.error (.rejected r))
  /-- There is no such value. -/
  | fault (e : Fault) : Checking check (.error e) (.error e)

variable {α β : Type}

/-- A value that is checked where it stands is read and accepted. -/
theorem checking_eq_ok_iff {read : Node → Except Fault α}
    {check : α → Except Rejection β} {n : Node} {b : β} :
    checking read check n = .ok b ↔ ∃ a, read n = .ok a ∧ check a = .ok b := by
  rw [checking, Except.bind_eq_ok_iff]
  simp only [Except.mapError_eq_ok_iff]

theorem checking_self (read : Node → Except Fault α) (check : α → Except Rejection β) (n : Node) :
    Checking check (read n) (checking read check n) := by
  rw [checking]
  cases read n with
  | error e => exact .fault e
  | ok a =>
    cases h : check a with
    | error r => simpa [h, Except.mapError, bind, Except.bind] using .refused h
    | ok b => simpa [h, Except.mapError, bind, Except.bind] using .accepted h

theorem checking_optional (read : Node → Except Fault α) (check : α → Except Rejection β)
    (n : Node) :
    Checking (optionally check) (n.optional read) (n.optional (checking read check)) := by
  rw [Node.optional, Node.optional]
  cases n.absent with
  | error e => exact .fault e
  | ok absent =>
    cases absent with
    | true => exact .accepted rfl
    | false =>
      show Checking (optionally check) (some <$> read n) (some <$> checking read check n)
      have hself := checking_self read check n
      generalize read n = x, checking read check n = y at hself
      cases hself with
      | accepted h => exact .accepted (congrArg (Except.map some) h)
      | refused h => exact .refused (congrArg (Except.map some) h)
      | fault e => exact .fault e

/-! ### Drafts side by side -/

/-- A raw sheet while it is read. -/
abbrev RawDraft :=
  Draft UInt32 String String String String String

/-- A checked sheet while it is read. -/
abbrev CheckedDraft :=
  Draft CarId Brand Engine Camera Smartphone Adas

/-- Every value of a raw draft is accepted, and the checked draft has what it stands for. -/
structure Draft.Checks (d : RawDraft) (d' : CheckedDraft) : Prop where
  /-- The identifiers. -/
  id : optionally CarId.ofWord d.id = .ok d'.id
  /-- The brands. -/
  brand : optionally Brand.parse d.brand = .ok d'.brand
  /-- The engines. -/
  engine : optionally Member.parse d.engine = .ok d'.engine
  /-- The cameras. -/
  camera : optionally Member.parse d.camera = .ok d'.camera
  /-- The smartphone links. -/
  smartphone : optionally Member.parse d.smartphone = .ok d'.smartphone
  /-- The driver assistances. -/
  adas : optionally Member.parse d.adas = .ok d'.adas

/-- The value of a field of a raw draft is refused. -/
def Draft.Refuses (d : RawDraft) : Field → Prop
  | .id => ∃ r, optionally CarId.ofWord d.id = .error r
  | .brand => ∃ r, optionally Brand.parse d.brand = .error r
  | .engine => ∃ r, optionally (Member.parse : String → Except Rejection Engine) d.engine = .error r
  | .camera => ∃ r, optionally (Member.parse : String → Except Rejection Camera) d.camera = .error r
  | .smartphone =>
    ∃ r, optionally (Member.parse : String → Except Rejection Smartphone) d.smartphone = .error r
  | .adas => ∃ r, optionally (Member.parse : String → Except Rejection Adas) d.adas = .error r

theorem checks_start : Draft.Checks {} {} :=
  ⟨rfl, rfl, rfl, rfl, rfl, rfl⟩

/-- What can come of a value that is read into two drafts side by side. -/
inductive StepAgrees (f : Field) : Except Fault RawDraft → Except Fault CheckedDraft → Prop
  /-- The value is accepted. -/
  | accepted {d : RawDraft} {d' : CheckedDraft} (h : d.Checks d') : StepAgrees f (.ok d) (.ok d')
  /-- The value is refused. -/
  | refused {d : RawDraft} (h : d.Refuses f) (r : Rejection) :
    StepAgrees f (.ok d) (.error (.rejected r))
  /-- There is no such value. -/
  | fault (e : Fault) : StepAgrees f (.error e) (.error e)

theorem Checking.stepAgrees {f : Field} {check : α → Except Rejection β} {x : Except Fault α}
    {y : Except Fault β} (h : Checking check x y) {put : α → RawDraft} {put' : β → CheckedDraft}
    (haccepted : ∀ a b, check a = .ok b → (put a).Checks (put' b))
    (hrefused : ∀ a r, check a = .error r → (put a).Refuses f) :
    StepAgrees f (x.map put) (y.map put') := by
  cases h with
  | accepted h => exact .accepted (haccepted _ _ h)
  | refused h => exact .refused (hrefused _ _ h) _
  | fault e => exact .fault e

/-- One value, read into two drafts side by side. -/
theorem slot_agrees (f : Field) {d : RawDraft} {d' : CheckedDraft} (h : d.Checks d') (n : Node) :
    StepAgrees f ((slot rawReaders f).read n d) ((slot checkedReaders f).read n d') := by
  cases f with
  | id =>
    exact (checking_self _ _ n).stepAgrees
      (fun _ _ hv ↦ { h with id := congrArg (Except.map some) hv })
      fun _ r hv ↦ ⟨r, congrArg (Except.map some) hv⟩
  | brand =>
    exact (checking_self _ _ n).stepAgrees
      (fun _ _ hv ↦ { h with brand := congrArg (Except.map some) hv })
      fun _ r hv ↦ ⟨r, congrArg (Except.map some) hv⟩
  | engine =>
    exact (checking_self _ _ n).stepAgrees
      (fun _ _ hv ↦ { h with engine := congrArg (Except.map some) hv })
      fun _ r hv ↦ ⟨r, congrArg (Except.map some) hv⟩
  | camera =>
    exact (checking_optional _ _ n).stepAgrees (fun _ _ hv ↦ { h with camera := hv })
      fun _ r hv ↦ ⟨r, hv⟩
  | smartphone =>
    exact (checking_optional _ _ n).stepAgrees (fun _ _ hv ↦ { h with smartphone := hv })
      fun _ r hv ↦ ⟨r, hv⟩
  | adas =>
    exact (checking_optional _ _ n).stepAgrees (fun _ _ hv ↦ { h with adas := hv })
      fun _ r hv ↦ ⟨r, hv⟩

/-- A refused value stays where it is while other fields are read. -/
theorem Draft.Refuses.read {f g : Field} {d d₁ : RawDraft} {n : Node} (h : d.Refuses f)
    (hne : g ≠ f) (hread : (slot rawReaders g).read n d = .ok d₁) : d₁.Refuses f := by
  cases g <;> obtain ⟨v, -, rfl⟩ := Except.map_eq_ok_iff.1 hread <;> cases f <;>
    first
    | exact h
    | exact absurd rfl hne

/-! ### Ends of documents -/

/-- What can come of a document that is read into two sheets side by side. -/
inductive Agrees : Except Fault Raw → Except Fault Checked → Prop
  /-- Every value is accepted. -/
  | accepted {s : Raw} {s' : Checked} (h : s.check = .ok s'.car) : Agrees (.ok s) (.ok s')
  /-- A value is refused, and nothing else is wrong. -/
  | refused {s : Raw} {r : Rejection} (h : s.check = .error r) (r' : Rejection) :
    Agrees (.ok s) (.error (.rejected r'))
  /-- Both readers meet the same fault. -/
  | fault (e : Fault) : Agrees (.error e) (.error e)
  /-- A value is refused before the other reader meets a fault. -/
  | earlier (e : Fault) (r : Rejection) : Agrees (.error e) (.error (.rejected r))

/-- A raw reader that never ends with a sheet that passes the check. -/
def NeverPasses (x : Except Fault Raw) : Prop :=
  ∀ s, x = .ok s → ∃ r, s.check = .error r

theorem NeverPasses.agrees {x : Except Fault Raw} (h : NeverPasses x) (r : Rejection) :
    Agrees x (.error (.rejected r)) := by
  cases x with
  | error e => exact .earlier e r
  | ok s =>
    obtain ⟨r', hcheck⟩ := h s rfl
    exact .refused hcheck r

theorem neverPasses_error (e : Fault) : NeverPasses (.error e) :=
  nofun

section Close

variable {fault : String → Fault} {clean : Bool} {d : RawDraft} {d' : CheckedDraft} {s : Raw}

theorem Draft.finish_eq_ok_iff {I B E C S A : Type} {d : Draft I B E C S A}
    {s : Sheet I B E C S A} :
    d.finish = .ok s ↔
      d = ⟨some s.id, some s.brand, some s.engine, s.camera, s.smartphone, s.adas⟩ := by
  obtain ⟨id, brand, engine, camera, smartphone, adas⟩ := d
  cases id <;> cases brand <;> cases engine <;> cases s <;> simp [finish]

theorem Draft.Refuses.check {f : Field} (h : d.Refuses f) (hfinish : d.finish = .ok s) :
    ∃ r, s.check = .error r := by
  rw [Draft.finish_eq_ok_iff] at hfinish
  subst hfinish
  cases hcheck : s.check with
  | error r => exact ⟨r, rfl⟩
  | ok car =>
    obtain ⟨hid, hbrand, hengine, hcamera, hsmartphone, hadas⟩ := Raw.check_eq_ok_iff.1 hcheck
    cases f <;> obtain ⟨r, hr⟩ := h <;> simp_all [optionally, Except.map]

/-- Drafts side by side are finished together: either both lack the same field first, or both
are sheets, and the raw one passes the check. -/
theorem Draft.Checks.finish (h : d.Checks d') :
    (∃ name, d.finish = .error name ∧ d'.finish = .error name) ∨
      ∃ (s : Raw) (s' : Checked),
        d.finish = .ok s ∧ d'.finish = .ok s' ∧ s.check = .ok s'.car := by
  obtain ⟨id, brand, engine, camera, smartphone, adas⟩ := d
  obtain ⟨id', brand', engine', camera', smartphone', adas'⟩ := d'
  obtain ⟨hid, hbrand, hengine, hcamera, hsmartphone, hadas⟩ := h
  -- One mandatory field after the other, in the order in which a missing one is named.
  cases id' with
  | none =>
    obtain rfl := optionally_eq_ok_none.1 hid
    exact .inl ⟨_, rfl, rfl⟩
  | some id' =>
  obtain ⟨id, rfl, hidOk⟩ := optionally_eq_ok_some.1 hid
  cases brand' with
  | none =>
    obtain rfl := optionally_eq_ok_none.1 hbrand
    exact .inl ⟨_, rfl, rfl⟩
  | some brand' =>
  obtain ⟨brand, rfl, hbrandOk⟩ := optionally_eq_ok_some.1 hbrand
  cases engine' with
  | none =>
    obtain rfl := optionally_eq_ok_none.1 hengine
    exact .inl ⟨_, rfl, rfl⟩
  | some engine' =>
  obtain ⟨engine, rfl, hengineOk⟩ := optionally_eq_ok_some.1 hengine
  exact .inr ⟨_, _, rfl, rfl,
    Raw.check_eq_ok_iff.2 ⟨hidOk, hbrandOk, hengineOk, hcamera, hsmartphone, hadas⟩⟩

theorem close_agrees (h : d.Checks d') :
    Agrees ((shape rawReaders).close fault clean d)
      ((shape checkedReaders).close fault clean d') := by
  show Agrees ((d.finish.mapError fault) >>= _) ((d'.finish.mapError fault) >>= _)
  rcases h.finish with ⟨name, hd, hd'⟩ | ⟨s, s', hd, hd', hcheck⟩
  · rw [hd, hd']
    exact .fault _
  · rw [hd, hd']
    show Agrees (Fault.unlessClean clean s) (Fault.unlessClean clean s')
    cases clean with
    | false => exact .fault _
    | true => exact .accepted hcheck

theorem neverPasses_close {f : Field} (h : d.Refuses f) :
    NeverPasses ((shape rawReaders).close fault clean d) := by
  intro s hs
  obtain ⟨s₁, hfinish, hclean⟩ := Except.bind_eq_ok_iff.1 hs
  have hfinish : d.finish = .ok s₁ := Except.mapError_eq_ok_iff.1 hfinish
  obtain rfl : s₁ = s := by
    cases clean with
    | false => cases hclean
    | true => exact Except.ok.inj hclean
  exact h.check hfinish

end Close

/-! ### Records -/

section Records

variable {ending : Ending}

/-- What an entry does to a record of a car, whatever the readers: it is a fault, or its value is
read into a field that is new. -/
theorem readEntries_cons_cases (ending : Ending) (e : Entry) (es : List Entry)
    (seen : List String) :
    (∃ fault, ∀ {I B E C S A : Type} (r : Readers I B E C S A) (d : Draft I B E C S A),
      (shape r).readEntries ending (e :: es) seen d = .error fault) ∨
    ∃ f : Field, f.name ∉ seen ∧
      ∀ {I B E C S A : Type} (r : Readers I B E C S A) (d : Draft I B E C S A),
        (shape r).readEntries ending (e :: es) seen d =
          (slot r f).read e.value d >>= (shape r).readEntries ending es (f.name :: seen) := by
  cases hkey : e.key with
  | error fault =>
    refine .inl ⟨fault, fun r d ↦ ?_⟩
    rw [Shape.readEntries, hkey]
    rfl
  | ok key =>
    cases hfind : Field.all.find? (·.name == key) with
    | none =>
      refine .inl ⟨.unknownField key, fun r d ↦ ?_⟩
      have hslot : (shape r).slots.find? (·.name == key) = none := by rw [find?_slots, hfind]; rfl
      rw [Shape.readEntries, hkey]
      simp only [bind, Except.bind, hslot]
    | some f =>
      obtain rfl : f.name = key := by simpa using List.find?_some hfind
      by_cases hseen : f.name ∈ seen
      · refine .inl ⟨.duplicateField f.name, fun r d ↦ ?_⟩
        rw [Shape.readEntries, hkey]
        simp [bind, Except.bind, find?_slot, hseen]
      · refine .inr ⟨f, hseen, fun r d ↦ ?_⟩
        rw [Shape.readEntries, hkey]
        simp [bind, Except.bind, find?_slot, hseen]

/-- A value that is refused stays refused to the end of a record, since its key is not read
again. -/
theorem neverPasses_readEntries {f : Field} (es : List Entry) {seen : List String} {d : RawDraft}
    (h : d.Refuses f) (hseen : f.name ∈ seen) :
    NeverPasses ((shape rawReaders).readEntries ending es seen d) := by
  induction es generalizing seen d with
  | nil =>
    cases ending with
    | broken => exact neverPasses_error _
    | closed clean => exact neverPasses_close h
  | cons e es ih =>
    rcases readEntries_cons_cases ending e es seen with ⟨fault, heq⟩ | ⟨g, hnew, heq⟩
    · rw [heq]
      exact neverPasses_error fault
    · rw [heq]
      intro s hs
      obtain ⟨d₁, hread, hrest⟩ := Except.bind_eq_ok_iff.1 hs
      have hne : g ≠ f := by
        rintro rfl
        exact hnew hseen
      exact ih (h.read hne hread) (List.mem_cons_of_mem _ hseen) s hrest

/-- The entries of a record, read side by side. -/
theorem readEntries_agrees (es : List Entry) {seen : List String} {d : RawDraft}
    {d' : CheckedDraft} (h : d.Checks d') :
    Agrees ((shape rawReaders).readEntries ending es seen d)
      ((shape checkedReaders).readEntries ending es seen d') := by
  induction es generalizing seen d d' with
  | nil =>
    cases ending with
    | broken => exact .fault _
    | closed clean => exact close_agrees h
  | cons e es ih =>
    rcases readEntries_cons_cases ending e es seen with ⟨fault, heq⟩ | ⟨f, hnew, heq⟩
    · rw [heq, heq]
      exact .fault fault
    · rw [heq, heq]
      have hstep := slot_agrees f h e.value
      generalize (slot rawReaders f).read e.value d = x,
        (slot checkedReaders f).read e.value d' = y at hstep
      cases hstep with
      | accepted h => exact ih h
      -- Here the checked reader stops, and the raw one goes on alone.
      | refused h r => exact (neverPasses_readEntries es h List.mem_cons_self).agrees r
      | fault fault => exact .fault fault

end Records

/-! ### Lists -/

section Lists

variable {ending : Ending}

/-- A value that is refused stays refused to the end of a list, since the fields follow each
other. -/
theorem neverPasses_readElements {f : Field} (ns : List Node) {fields : List Field} {d : RawDraft}
    (h : d.Refuses f) (hfields : f ∉ fields) :
    NeverPasses ((shape rawReaders).readElements ending (fields.map (slot rawReaders)) ns d) := by
  induction ns generalizing fields d with
  | nil =>
    cases ending with
    | broken => cases fields <;> exact neverPasses_error _
    | closed clean => cases fields <;> exact neverPasses_close h
  | cons n ns ih =>
    cases fields with
    | nil => exact neverPasses_error _
    | cons g fields =>
      obtain ⟨hne, hfields⟩ : f ≠ g ∧ f ∉ fields := by simpa using hfields
      intro s hs
      obtain ⟨d₁, hread, hrest⟩ := Except.bind_eq_ok_iff.1 hs
      exact ih (h.read hne.symm hread) hfields s hrest

/-- The elements of a list, read side by side. -/
theorem readElements_agrees (ns : List Node) (fields : List Field) (hfields : fields.Nodup)
    {d : RawDraft} {d' : CheckedDraft} (h : d.Checks d') :
    Agrees ((shape rawReaders).readElements ending (fields.map (slot rawReaders)) ns d)
      ((shape checkedReaders).readElements ending (fields.map (slot checkedReaders)) ns d') := by
  induction ns generalizing fields d d' with
  | nil =>
    cases ending with
    | broken => cases fields <;> exact .fault _
    | closed clean => cases fields <;> exact close_agrees h
  | cons n ns ih =>
    cases fields with
    | nil => exact .fault _
    | cons f fields =>
      obtain ⟨hnotMem, hfields⟩ := List.nodup_cons.1 hfields
      show Agrees ((slot rawReaders f).read n d >>= _) ((slot checkedReaders f).read n d' >>= _)
      have hstep := slot_agrees f h n
      generalize (slot rawReaders f).read n d = x,
        (slot checkedReaders f).read n d' = y at hstep
      cases hstep with
      | accepted h => exact ih fields hfields h
      | refused h r => exact (neverPasses_readElements ns h hnotMem).agrees r
      | fault fault => exact .fault fault

end Lists

/-- A document, read side by side. -/
theorem read_agrees (o : Outline) :
    Agrees ((shape rawReaders).read o) ((shape checkedReaders).read o) := by
  cases o with
  | record entries ending => exact readEntries_agrees entries checks_start
  | list elements ending => exact readElements_agrees elements Field.all (by decide) checks_start
  | single value clean => exact .fault _
  | blank value clean =>
    show Agrees ((shape rawReaders).readEntries (.closed clean) [] [] {})
      ((shape checkedReaders).readEntries (.closed clean) [] [] {})
    exact readEntries_agrees [] checks_start
  | broken => exact .fault _

end Sheet

/-! ### Cars -/

/-- Both readers of cars accept the same documents. Where the reader that checks at the end
refuses a value, the other one refuses a value too, and where it meets a fault of the document,
the other one fails as well. -/
theorem Car.ofDocument_agrees_decode (f : Format) (s : String) :
    (∀ car, ofDocument f s = .ok car ↔ decode f s = .ok car) ∧
      (∀ r, ofDocument f s = .error (.rejected r) →
        ∃ r', decode f s = .error (.document f (.rejected r'))) ∧
      ∀ g fault, ofDocument f s = .error (.document g fault) →
        ∃ fault', decode f s = .error (.document f fault') := by
  rw [ofDocument, decode, Format.readRecord, Format.readRecord]
  have hread := Sheet.read_agrees (f.outline s)
  generalize (Sheet.shape Sheet.rawReaders).read (f.outline s) = x,
    (Sheet.shape Sheet.checkedReaders).read (f.outline s) = y at hread
  cases hread with
  | accepted h => simp [Except.mapError, Except.map, bind, Except.bind, h]
  | refused h r => simp [Except.mapError, Except.map, bind, Except.bind, h]
  | fault e => simp [Except.mapError, Except.map, bind, Except.bind]
  | earlier e r => simp [Except.mapError, Except.map, bind, Except.bind]

/-- A list whose identifier is refused, one that ends too early, and a mapping that is accepted. -/
theorem Car.ofDocument_agrees_decode_list :
    (ofDocument .json "[0,\"Ford\",\"lng\"]" = .error (.rejected ⟨"id", .belowMinimum 0⟩) ∧
      ∃ r, decode .json "[0,\"Ford\",\"lng\"]" = .error (.document .json (.rejected r))) ∧
      (ofDocument .json "[1]" = .error (.document .json .wrongLength) ∧
        ∃ fault, decode .json "[1]" = .error (.document .json fault)) ∧
      ∃ car : Car, car.camera = some .rear ∧
        ofDocument .yaml "camera: rear\nid: 7\nbrand: Ford\nengine: lng\n" = .ok car ∧
          decode .yaml "camera: rear\nid: 7\nbrand: Ford\nengine: lng\n" = .ok car := by
  have hrefused : ofDocument .json "[0,\"Ford\",\"lng\"]" =
      .error (.rejected ⟨"id", .belowMinimum 0⟩) := rfl
  have hshort : ofDocument .json "[1]" = .error (.document .json .wrongLength) := rfl
  have hcamera : (ofDocument .yaml "camera: rear\nid: 7\nbrand: Ford\nengine: lng\n").map
      Car.camera = .ok (some .rear) := by decide +kernel
  obtain ⟨car, haccepted, hcar⟩ := Except.map_eq_ok_iff.1 hcamera
  exact ⟨⟨hrefused, (ofDocument_agrees_decode .json _).2.1 _ hrefused⟩,
    ⟨hshort, (ofDocument_agrees_decode .json _).2.2 _ _ hshort⟩,
    car, hcar, haccepted, ((ofDocument_agrees_decode .yaml _).1 car).1 haccepted⟩

end Fitout
