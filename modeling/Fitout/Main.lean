import Fitout.Command.Run
import Fitout.Command.Usage

/-!
# The program

The outer layer: a host that is the system, and the wording of the program. All decisions are those
of `Invocation.parse` and `Invocation.main`.
-/

namespace Fitout

/-! ### The system as a host -/

/-- The failure behind an error of the system. -/
def FileError.ofSystem : IO.Error → FileError
  | .noFileOrDirectory .. => .notFound
  | .permissionDenied .. => .denied
  | e => .described (toString e)

/-- The variables that a run looks at. -/
def Environment.inspect : IO Environment := do
  let names := Verbosity.variableName :: Field.all.map Field.variableName
  let found ← names.mapM fun n ↦ return (← IO.getEnv n).map (n, ·)
  return { bindings := found.filterMap id }

/-- A run on the system, which keeps the log of the process. -/
abbrev OnSystem :=
  StateT Log IO

instance : Host OnSystem where
  holds p := try discard (IO.FS.realPath p.shown); return true catch _ => return false
  read p := try return .ok (← IO.FS.readBinFile p.shown)
    catch e => return .error (FileError.ofSystem e)
  write p content := try IO.FS.writeBinFile p.shown content; return .ok ()
    catch e => return .error (FileError.ofSystem e)
  environment := Environment.inspect
  startLog v := modify (·.start v)
  record r := do if (← get).writes r.severity then IO.eprintln r.line
  print text := IO.print text
  tell line := IO.eprintln line

/-! ### Wording -/

/-- The arguments of each verb, in short. -/
def Verb.usage : Verb → String
  | .create =>
    "create --id ID --brand BRAND --engine ENGINE [--camera CAMERA] [--smartphone SMARTPHONE]\n" ++
      "         [--adas ADAS] [--format FORMAT] [-o PATH]"
  | .merge => "merge BASE UPDATE... [--env] [--format FORMAT] [-o PATH]"
  | .set => "set FILE FIELD=VALUE... [-i] [--format FORMAT]"
  | .validate => "validate PATH"
  | .completions => "completions SHELL"

namespace Wording

/-- The words that a command line may use: the verbs and the long names of all keys. -/
def words : List String :=
  let keys := (Key.leading ++ Verb.all.flatMap Verb.keys).eraseDups
  Verb.all.map Verb.name ++ ["help"] ++ keys.map fun k ↦ "--" ++ k.long

/-- The words on one line. -/
def wordLine : String :=
  " ".intercalate words

/-- The wording of this program: its scripts offer the words that the grammar takes. -/
def plain : Wording where
  usage :=
    "Build and merge car configurations\n\nUsage: " ++ programName ++
      " [--verbose] [--quiet] COMMAND\n\nCommands:\n" ++
      String.join (Verb.all.map fun v ↦ "  " ++ v.usage ++ "\n")
  script
    | .bash => "complete -o default -W '" ++ wordLine ++ "' " ++ programName ++ "\n"
    | .elvish =>
      "set edit:completion:arg-completer[" ++ programName ++ "] = \x7b|@given| put " ++ wordLine ++
        "\x7d\n"
    | .fish => "complete -c " ++ programName ++ " -a '" ++ wordLine ++ "'\n"
    | .powershell =>
      "Register-ArgumentCompleter -Native -CommandName '" ++ programName ++
        "' -ScriptBlock \x7b param($word) '" ++ wordLine ++
        "'.Split(' ') | Where-Object \x7b $_ -like \"$word*\" \x7d \x7d\n"
    | .zsh => "#compdef " ++ programName ++ "\ncompadd -- " ++ wordLine ++ "\n"

end Wording

end Fitout

/-- The entry point. -/
def main (args : List String) : IO UInt32 := do
  match Fitout.Invocation.parse args with
  | .ok inv =>
    let exitCode ← (inv.main Fitout.Wording.plain : Fitout.OnSystem Nat).run' {}
    return exitCode.toUInt32
  | .error stop =>
    IO.eprint (stop.stderr Fitout.Wording.plain)
    IO.print (stop.stdout Fitout.Wording.plain)
    return stop.exitCode.toUInt32
