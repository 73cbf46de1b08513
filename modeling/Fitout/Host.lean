import Fitout.Files.Tree
import Fitout.Log

/-!
# Hosts

A program asks its host for all that it sees of its surroundings and for all that it does to them.
The host may be a system. It may also be a `World`, which is a value: what a program has done to it
is there to be seen also if the program fails later.
-/

namespace Fitout

/-- What a program can ask for. -/
class Host (m : Type → Type) where
  /-- Whether a path denotes something. -/
  holds : Path → m Bool
  /-- Reads the file that a path denotes. -/
  read : Path → m (Except FileError ByteArray)
  /-- Writes the file that a path leads to. -/
  write : Path → ByteArray → m (Except FileError Unit)
  /-- Looks up the variables of the process. -/
  environment : m Environment
  /-- Starts logging. -/
  startLog : Verbosity → m Unit
  /-- Makes an entry of the log. -/
  record : Record → m Unit
  /-- Prints a text on standard output. -/
  print : String → m Unit
  /-- Puts a line on standard error. -/
  tell : String → m Unit

namespace Host

variable {m : Type → Type} [Monad m] [Host m]

/-- A program that may fail asks as one that may not. -/
instance {ε : Type} : Host (ExceptT ε m) where
  holds p := ExceptT.lift (holds p)
  read p := ExceptT.lift (read p)
  write p content := ExceptT.lift (write p content)
  environment := ExceptT.lift environment
  startLog v := ExceptT.lift (startLog v)
  record r := ExceptT.lift (record r)
  print text := ExceptT.lift (print text)
  tell line := ExceptT.lift (tell line)

/-- Makes entries of the log. -/
def records (rs : List Record) : m Unit :=
  rs.forM record

/-- Puts lines on standard error. -/
def tellAll (lines : List String) : m Unit :=
  lines.forM tell

end Host

/-! ### Worlds -/

/-- The surroundings of a run. -/
structure World where
  /-- The file system. -/
  tree : Tree
  /-- The variables of the process. -/
  environment : Environment := {}
  /-- The log of the process. -/
  log : Log := {}
  /-- What was printed on standard output. -/
  stdout : String := ""
  /-- What was put on standard error. -/
  stderr : String := ""

namespace World

/-- The world after some text on standard error. -/
def say (w : World) (text : String) : World :=
  { w with stderr := w.stderr ++ text }

/-- The world after an entry of its log. -/
def record (w : World) (r : Record) : World :=
  if w.log.writes r.severity then w.say (r.line ++ "\n") else w

/-- A write that fails leaves the world as it is. -/
instance : Host (StateM World) where
  holds p := return (← get).tree.holds p
  read p := return (← get).tree.read p
  write p content := do
    match (← get).tree.write p content with
    | .ok t =>
      modify ({ · with tree := t })
      return .ok ()
    | .error e => return .error e
  environment := return (← get).environment
  startLog v := modify fun w ↦ { w with log := w.log.start v }
  record r := modify (·.record r)
  print text := modify fun w ↦ { w with stdout := w.stdout ++ text }
  tell line := modify (·.say (line ++ "\n"))

theorem run_write (w : World) (path : Path) (content : ByteArray) :
    StateT.run (Host.write path content : StateM World (Except FileError Unit)) w =
      (match w.tree.write path content with
      | .ok t => (.ok (), { w with tree := t })
      | .error e => (.error e, w) : Except FileError Unit × World) := by
  show Id.run (StateT.run (StateT.bind get _) w) = _
  simp only [StateT.bind, StateT.run]
  show Id.run ((match w.tree.write path content with
    | .ok t => _
    | .error e => _ : StateM World _) w) = _
  rcases w.tree.write path content with e | t <;> rfl

end World

end Fitout
