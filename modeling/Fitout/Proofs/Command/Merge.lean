import Fitout.Proofs.Car.Layers
import Fitout.Proofs.Command.Outcome

/-!
# What a merge does

A merge reads the base and then the updates, puts the overrides of the environment on top if it is
asked to, and emits the configuration. What can fail in each of these steps can be told from the
tree before the run and from the environment, without the values of the steps before: also a write
fails for its path, not for what is written (`Tree.failures_write`). So the failures of a merge are
a list (`Command.mergeFailures`), and the run ends with the first of them, or else emits the
configuration that the layers make (`Invocation.run_merge`).
-/

namespace Fitout

/-- The environment that a merge looks at: an empty one if it is not asked to look. -/
def Environment.consulted (env : Environment) (useEnvironment : Bool) : Environment :=
  if useEnvironment then env else {}

namespace Command

/-- Why a merge fails, in the order in which it would come across it. -/
def mergeFailures (t : Tree) (env : Environment) (base : Path) (updates : List Path)
    (target : Target) : List Failure :=
  (base :: updates).flatMap (fun p ↦ failures (load t p)) ++
    env.refusals.map (fun r ↦ .operation (.rejected r)) ++ target.failures t

theorem ends_overridden (env : Environment) (useEnvironment : Bool) (base update : Car)
    (updates : List Car) :
    Ends (Car.IsLayered (env.consulted useEnvironment) base (update :: updates))
      (if useEnvironment then overridden env (base.mergeAll (update :: updates))
        else .ok (base.mergeAll (update :: updates)))
      ((env.consulted useEnvironment).refusals.map fun r ↦ .operation (.rejected r)) := by
  have hlayers := Car.ends_layers (env.consulted useEnvironment) base update updates
  rcases useEnvironment with _ | _
  · exact hlayers.mapError fun r ↦ .operation (.rejected r)
  · have h := (hlayers.mapError Error.rejected).mapError Failure.operation
    rw [List.map_map] at h
    exact h

/-- A merge, step by step. -/
theorem ends_merge (wording : Wording) (quiet : Bool) (t : Tree) (env : Environment)
    (base update : Path) (updates : List Path) (useEnvironment : Bool) (target : Target) :
    Ends (fun out ↦ ∃ first layers car, load t base = .ok first ∧
        List.Forall₂ (fun p c ↦ load t p = .ok c) (update :: updates) layers ∧
        Car.IsLayered (env.consulted useEnvironment) first layers car ∧
        target.Receives t car out.1 out.2)
      (effect wording quiet t env (.merge base (update :: updates) useEnvironment target))
      (mergeFailures t (env.consulted useEnvironment) base (update :: updates) target) := by
  rw [mergeFailures, List.flatMap_cons, List.append_assoc, List.append_assoc]
  refine (Ends.self (load t base)).bind fun first hfirst ↦ ?_
  refine (Ends.mapM (fun p ↦ Ends.self (load t p)) (update :: updates)).bind fun layers hlayers ↦ ?_
  obtain ⟨c, cs, -, -, rfl⟩ := List.forall₂_cons_left_iff.1 hlayers
  have hemitted := (ends_overridden env useEnvironment first c cs).bind
    fun car hcar ↦ (ends_emitted t car target).mono fun out hout ↦
      show ∃ first layers car, load t base = .ok first ∧
          List.Forall₂ (fun p c ↦ load t p = .ok c) (update :: updates) layers ∧
          Car.IsLayered (env.consulted useEnvironment) first layers car ∧
          target.Receives t car out.1 out.2 from
        ⟨first, c :: cs, car, hfirst, hlayers, hcar, hout⟩
  rcases useEnvironment with _ | _ <;> exact hemitted

end Command

/-- **A merge makes the configuration of its layers.** If the base and every update can be read, no
variable that counts is refused and the configuration can be emitted, then the run emits the
configuration of all layers. Else it ends with the first failure in the order base, updates,
variables, emission, and nothing is emitted. The target may be one of the files that are read. -/
theorem Invocation.run_merge (verbose quiet : Bool) (base update : Path) (updates : List Path)
    (useEnvironment : Bool) (target : Target) (wording : Wording) (env : Environment) (t : Tree) :
    let outcome := Invocation.run
      ⟨verbose, quiet, .merge base (update :: updates) useEnvironment target⟩ wording env t
    match Command.mergeFailures t (env.consulted useEnvironment) base (update :: updates)
      target with
    | e :: _ => outcome.FailsWith t e
    | [] => ∃ first layers car, Command.load t base = .ok first ∧
        List.Forall₂ (fun p c ↦ Command.load t p = .ok c) (update :: updates) layers ∧
        Car.IsLayered (env.consulted useEnvironment) first layers car ∧
        ∃ text after, target.Receives t car text after ∧ outcome.Leaves text after := by
  intro outcome
  let P (text : String) (after : Tree) : Prop :=
    ∃ first layers car, Command.load t base = .ok first ∧
      List.Forall₂ (fun p c ↦ Command.load t p = .ok c) (update :: updates) layers ∧
      Car.IsLayered (env.consulted useEnvironment) first layers car ∧
      target.Receives t car text after
  have hrun := run_of_ends ⟨verbose, quiet, _⟩ (P := P)
    (Command.ends_merge wording quiet t env base update updates useEnvironment target)
  generalize Command.mergeFailures t _ base (update :: updates) target = es at hrun ⊢
  rcases es with - | ⟨e, later⟩
  · obtain ⟨text, after, ⟨first, layers, car, hfirst, hlayers, hcar, hreceives⟩, hleaves⟩ := hrun
    exact ⟨first, layers, car, hfirst, hlayers, hcar, text, after, hreceives, hleaves⟩
  · exact hrun

/-- A merge into its own base, which is beside the directory that the run works in. The update is
reached over a link, and a blank variable takes away what it states. -/
theorem Invocation.run_merge_into_base :
    let start : Tree :=
      { home := .ofText "srv/work", links := [(.ofText "srv/link.yml", .ofText "../data/b.yml")] }
    let t := ((start.put start.home .directory).put (.ofText "srv/a.yml")
      (.file "id: 7\nbrand: Audi\nengine: diesel\n".toUTF8)).put (.ofText "data/b.yml")
        (.file "id: 8\nbrand: Seat\nengine: lng\ncamera: rear\n".toUTF8)
    let outcome := Invocation.run ⟨false, false, .merge (.ofText "/srv/a.yml")
      [.ofText "../link.yml"] true (.file (.ofText "../a.yml"))⟩ ⟨"", fun _ ↦ ""⟩
        ⟨[("CARCONF_CAMERA", " ")]⟩ t
    outcome.exitCode = 0 ∧ outcome.stdout = "" ∧
      outcome.tree.read (.ofText "/srv/a.yml") =
        .ok "id: 8\nbrand: Seat\nengine: lng\n".toUTF8 ∧
      ∃ car : Car, car.camera = none ∧
        outcome.tree.Keeps (.ofText "../a.yml") (car.render .yaml).toUTF8 := by
  intro start t outcome
  have hnone : Command.mergeFailures t ⟨[("CARCONF_CAMERA", " ")]⟩ (.ofText "/srv/a.yml")
      [.ofText "../link.yml"] (.file (.ofText "../a.yml")) = [] := by decide +kernel
  have hset : Environment.get? ⟨[("CARCONF_CAMERA", " ")]⟩ Field.camera.variableName =
      some " " := by decide +kernel
  have hblank : Override.optional ⟨.camera, " "⟩ = .ok (none : Option Camera) := by
    decide +kernel
  have hread : outcome.tree.read (.ofText "/srv/a.yml") =
      .ok "id: 8\nbrand: Seat\nengine: lng\n".toUTF8 := by decide +kernel
  -- From here on the tree need not be looked into.
  clear_value t
  have hrun := run_merge false false (.ofText "/srv/a.yml") (.ofText "../link.yml") [] true
    (.file (.ofText "../a.yml")) ⟨"", fun _ ↦ ""⟩ ⟨[("CARCONF_CAMERA", " ")]⟩ t
  simp only [Environment.consulted, if_true, hnone] at hrun
  obtain ⟨_, _, car, -, -, hcar, text, after, ⟨htext, format, hformat, -, hkeeps⟩, hleaves⟩ := hrun
  have hcamera := hcar.camera
  simp only [Car.UppermostStated, hset, hblank, Except.ok.injEq] at hcamera
  have hyaml : Format.ofPath (.ofText "../a.yml") = .ok .yaml := by decide +kernel
  obtain rfl : Format.yaml = format := Except.ok.inj (hyaml.symm.trans hformat)
  refine ⟨hleaves.exitCode, hleaves.stdout.trans htext, hread, car, hcamera.symm, ?_⟩
  rw [show outcome.tree = after from hleaves.tree]
  exact hkeeps

end Fitout
