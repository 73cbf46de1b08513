import Fitout.Command.Assignment
import Fitout.Command.Completion
import Fitout.Files.Car

/-!
# Runs

What the commands do, step by step. A step that was taken stays taken when a later one fails: what
was printed stays printed, and what was written stays written. That a command that fails has printed
and written nothing is a fact about the order of its steps.
-/

namespace Fitout

namespace Command

section

variable {m : Type → Type} [Monad m] [Host m]

/-! ### What comes in and what goes out -/

/-- A configuration that a command needs; a path that denotes nothing is the caller's mistake. -/
def input (p : Path) : ExceptT Failure m Car := do
  if ← Host.holds p then ExceptT.adapt .operation (Car.load p)
  else throw (.arguments (.noFile p))

/-- Prints a configuration, or writes it into a file. -/
def emit (quiet : Bool) (car : Car) : Target → ExceptT Failure m Unit
  | .standard format => Host.print (car.render format)
  | .file path => do
    ExceptT.adapt .operation (car.save path)
    if !quiet then Host.tell ("Wrote " ++ path.shown)

/-! ### The commands -/

/-- Makes a configuration from its fields. -/
def runCreate (quiet : Bool) (id : UInt32) (brand : String) (engine : Engine)
    (camera : Option Camera) (smartphone : Option Smartphone) (adas : Option Adas)
    (target : Target) : ExceptT Failure m Unit := do
  Host.records (Journal.create id brand engine)
  let base ← ofExcept ((Car.create id brand engine).mapError fun r ↦ .operation (.rejected r))
  let car := { base with camera, smartphone, adas }
  Host.record ⟨.info, "created " ++ car.display⟩
  emit quiet car target

/-- The records of merging the updates of some files onto a base. -/
def mergeRecords (base : Car) : List (Path × Car) → List Record
  | [] => []
  | (path, update) :: rest =>
    ⟨.info, "applying " ++ path.shown⟩ ::
      (Journal.merge base update ++ mergeRecords (base.merge update) rest)

/-- Puts the overrides of the environment on top of a configuration. -/
def override (car : Car) : ExceptT Failure m Car := do
  let env ← Host.environment
  Host.records (Journal.overrides car env.overrides)
  let (result, car) := Program.answer (Draft.override env) car
  let n ← ofExcept (result.mapError .operation)
  Host.record ⟨.info, "applied " ++ Decimal.write n ++ " environment override(s)"⟩
  return car

/-- Merges the configurations of files, and the overrides of the environment if so asked. -/
def runMerge (quiet : Bool) (base : Path) (updates : List Path) (useEnvironment : Bool)
    (target : Target) : ExceptT Failure m Unit := do
  let first ← input base
  let layers ← updates.mapM input
  Host.records (Journal.copying first :: mergeRecords first (updates.zip layers))
  let merged := first.mergeAll layers
  let car ← if useEnvironment then override merged else pure merged
  emit quiet car target

/-- Applies assignments to the configuration in a file. -/
def runSet (verbose quiet : Bool) (file : Path) (texts : List String) (target : Target) :
    ExceptT Failure m Unit := do
  let assignments ← ofExcept (texts.mapM Assignment.parse)
  let current ← input file
  Host.records (Journal.copying current :: Journal.assignments current assignments)
  let car ← ofExcept ((current.assign assignments).mapError .operation)
  if verbose then
    Host.tell ("Applied " ++ Decimal.write assignments.length ++ " assignment(s) to " ++ file.shown)
  emit quiet car target

/-- Tells whether a file holds a configuration. -/
def runValidate (quiet : Bool) (file : Path) : ExceptT Failure m Unit := do
  if !(← Host.holds file) then throw (.arguments (.noFile file))
  match ← ExceptT.lift (Car.load file).run with
  | .ok car =>
    Host.record ⟨.info, "parsed " ++ car.display⟩
    if !quiet then Host.print "Configuration is valid\n"
  | .error e =>
    if e.isDocument || e.isRejection then
      Host.tell ("Validation error: " ++ e.message)
      throw (.verdict "Configuration validation failed")
    else throw (.operation e)

/-- Prints a completion script. -/
def runCompletions (wording : Wording) (quiet : Bool) (shell : Shell) :
    ExceptT Failure m Unit := do
  if !quiet then Host.tellAll (Completion.hint shell)
  Host.print (wording.script shell)

end

end Command

namespace Invocation

section

variable {m : Type → Type} [Monad m] [Host m]

/-- Carries out the command. -/
def execute (inv : Invocation) (wording : Wording) : ExceptT Failure m Unit :=
  match inv.command with
  | .create id brand engine camera smartphone adas target =>
    Command.runCreate inv.quiet id brand engine camera smartphone adas target
  | .merge base updates useEnvironment target =>
    Command.runMerge inv.quiet base updates useEnvironment target
  | .set file assignments target => Command.runSet inv.verbose inv.quiet file assignments target
  | .validate file => Command.runValidate inv.quiet file
  | .completions shell => Command.runCompletions wording inv.quiet shell

/-- How much a run reports. -/
def verbosity (inv : Invocation) (env : Environment) : Verbosity :=
  Verbosity.resolve inv.verbose inv.quiet env

/-- Starts logging, carries out the command and tells a failure; the result is the exit code. -/
def main (inv : Invocation) (wording : Wording) : m Nat := do
  let v := inv.verbosity (← Host.environment)
  Host.startLog v
  Host.record ⟨.debug, "log level: " ++ v.name⟩
  match ← (inv.execute wording).run with
  | .ok () => return 0
  | .error e =>
    Host.tell ("Error: " ++ e.message)
    return e.exitCode

end

end Invocation

/-! ### What can be seen of a run -/

/-- What a run leaves behind. -/
structure Outcome where
  /-- The exit code. -/
  exitCode : Nat
  /-- The text on standard output. -/
  stdout : String
  /-- The text on standard error. -/
  stderr : String
  /-- The files afterwards. -/
  tree : Tree

/-- What a run with some exit code leaves behind in a world. -/
def World.outcome (w : World) (exitCode : Nat) : Outcome :=
  ⟨exitCode, w.stdout, w.stderr, w.tree⟩

/-- Carries out a command in a tree. -/
def Invocation.run (inv : Invocation) (wording : Wording) (env : Environment) (t : Tree) :
    Outcome :=
  let start : World := { tree := t, environment := env }
  let (exitCode, w) := (inv.main wording : StateM World Nat).run start
  w.outcome exitCode

end Fitout
