import Fitout.Car.Equipment
import Fitout.Document.Format
import Fitout.Files.Path
import Fitout.Text.Decimal

/-!
# Command lines

The grammar of the arguments. A command line names one of five verbs and gives it options and
operands in any order. An option is written `--name value`, `--name=value`, `-nvalue`, `-n=value`
or `-n value`, a flag `--name` or `-n`, and short flags may share a hyphen; after `--` all
arguments are operands. A value that stands by itself starts with a hyphen only if it is the
hyphen alone. Nothing may be given twice, but the two flags on verbosity are also taken before the
verb.

Arguments are looked at from left to right, and the first that is at fault, or asks for help or
the version, ends the reading. `Invocation.parse` gives the command, or the reason to stop.
-/

namespace Fitout

/-- Why there is no command to carry out. -/
inductive Stop
  /-- Help was asked for. -/
  | help
  /-- The version was asked for. -/
  | version
  /-- The arguments do not follow the grammar. -/
  | malformed
  deriving DecidableEq, Repr

/-- A shell for which a completion script can be had. -/
inductive Shell
  | bash
  | elvish
  | fish
  | powershell
  | zsh
  deriving DecidableEq, Repr

namespace Shell

/-- All shells. -/
def all : List Shell :=
  [bash, elvish, fish, powershell, zsh]

/-- The name of a shell. -/
def name : Shell → String
  | bash => "bash"
  | elvish => "elvish"
  | fish => "fish"
  | powershell => "powershell"
  | zsh => "zsh"

/-- The shell of a name. -/
def ofName? (s : String) : Option Shell :=
  all.find? (·.name == s)

end Shell

/-- Where the configuration that a command makes goes to. -/
inductive Target
  /-- Printed in a format. -/
  | standard (format : Format)
  /-- Written to a file, in the format of its extension. -/
  | file (path : Path)
  deriving DecidableEq, Repr

/-- What a run is asked to do. -/
inductive Command
  /-- Makes a configuration from its fields. -/
  | create (id : UInt32) (brand : String) (engine : Engine) (camera : Option Camera)
      (smartphone : Option Smartphone) (adas : Option Adas) (target : Target)
  /-- Merges updates onto a base, and then the overrides of the environment if so asked. -/
  | merge (base : Path) (updates : List Path) (useEnvironment : Bool) (target : Target)
  /-- Applies assignments to the configuration in a file. -/
  | set (file : Path) (assignments : List String) (target : Target)
  /-- Tells whether a file holds a configuration. -/
  | validate (file : Path)
  /-- Prints a completion script. -/
  | completions (shell : Shell)
  deriving DecidableEq, Repr

/-- A command with the flags on verbosity. -/
structure Invocation where
  /-- Whether the run tells everything. -/
  verbose : Bool := false
  /-- Whether the run tells only what matters. -/
  quiet : Bool := false
  /-- What to do. -/
  command : Command
  deriving DecidableEq, Repr

/-! ### The names that a command line may use -/

/-- The verbs. -/
inductive Verb
  | create
  | merge
  | set
  | validate
  | completions
  deriving DecidableEq, Repr

/-- The names after hyphens. -/
inductive Key
  | help
  | version
  | verbose
  | quiet
  | id
  | brand
  | engine
  | camera
  | smartphone
  | adas
  | format
  | output
  | env
  | inPlace
  deriving DecidableEq, Repr

namespace Verb

/-- All verbs. -/
def all : List Verb :=
  [create, merge, set, validate, completions]

/-- The name of a verb. -/
def name : Verb → String
  | create => "create"
  | merge => "merge"
  | set => "set"
  | validate => "validate"
  | completions => "completions"

/-- The verb of a name. -/
def ofName? (s : String) : Option Verb :=
  all.find? (·.name == s)

/-- The keys that may follow a verb. -/
def keys : Verb → List Key
  | create =>
    [.id, .brand, .engine, .camera, .smartphone, .adas, .format, .output, .verbose, .quiet, .help]
  | merge => [.env, .format, .output, .verbose, .quiet, .help]
  | set => [.inPlace, .format, .verbose, .quiet, .help]
  | validate | completions => [.verbose, .quiet, .help]

end Verb

namespace Key

/-- The keys that may stand before a verb. -/
def leading : List Key :=
  [.verbose, .quiet, .help, .version]

/-- The long name of a key. -/
def long : Key → String
  | help => "help"
  | version => "version"
  | verbose => "verbose"
  | quiet => "quiet"
  | id => "id"
  | brand => "brand"
  | engine => "engine"
  | camera => "camera"
  | smartphone => "smartphone"
  | adas => "adas"
  | format => "format"
  | output => "output"
  | env => "env"
  | inPlace => "in-place"

/-- The short name of a key. -/
def short? : Key → Option Char
  | help => some 'h'
  | version => some 'V'
  | output => some 'o'
  | inPlace => some 'i'
  | _ => none

/-- Whether a key takes a value. -/
def takesValue : Key → Bool
  | id | brand | engine | camera | smartphone | adas | format | output => true
  | help | version | verbose | quiet | env | inPlace => false

end Key

/-! ### From arguments to items -/

/-- What one or two arguments amount to. -/
inductive Item
  /-- A key that takes no value. -/
  | flag (k : Key)
  /-- A key with its value. -/
  | option (k : Key) (value : String)
  /-- An argument that is no option. -/
  | operand (text : String)
  /-- Something that does not follow the grammar. -/
  | malformed
  deriving DecidableEq, Repr

namespace Item

/-- The item of a key whose value, if any, is the next argument. -/
def awaiting (k : Key) (next? : Option String) : Item :=
  match next? with
  | some next =>
    if next.toList.head? == some '-' && next != "-" then malformed else option k next
  | none => malformed

/-- The items of an argument that starts with two hyphens, from what follows them. -/
def ofLong (keys : List Key) (body : List Char) (next? : Option String) : List Item × Bool :=
  match keys.find? (·.long.toList == body.takeWhile (· != '=')) with
  | none => ([malformed], false)
  | some k =>
    match body.dropWhile (· != '='), k.takesValue with
    | [], false => ([flag k], false)
    | [], true => ([awaiting k next?], true)
    | _ :: value, true => ([option k (String.ofList value)], false)
    | _ :: _, false => ([malformed], false)

/-- The items of an argument that starts with one hyphen, from what follows it. -/
def ofShort (keys : List Key) (next? : Option String) : List Char → List Item × Bool
  | [] => ([], false)
  | c :: cs =>
    match keys.find? (·.short? == some c) with
    | none => ([malformed], false)
    | some k =>
      if k.takesValue then
        match cs with
        | [] => ([awaiting k next?], true)
        | '=' :: value => ([option k (String.ofList value)], false)
        | value => ([option k (String.ofList value)], false)
      else
        let (items, taken) := ofShort keys next? cs
        (flag k :: items, taken)

/-- The items of the arguments after a verb that takes some keys. -/
def ofArguments (keys : List Key) : List String → List Item
  | [] => []
  | arg :: rest =>
    match arg.toList with
    | ['-', '-'] => rest.map operand
    | '-' :: '-' :: body => follow (ofLong keys body rest.head?) rest
    | '-' :: c :: cs => follow (ofShort keys rest.head? (c :: cs)) rest
    | _ => operand arg :: ofArguments keys rest
where
  /-- Goes on after an argument, or after the next one too if that was taken as a value. -/
  follow (found : List Item × Bool) : List String → List Item
    | [] => found.1
    | next :: rest =>
      found.1 ++ (if found.2 then ofArguments keys rest else ofArguments keys (next :: rest))

end Item

/-! ### From items to a command -/

/-- What the items of a command line have given so far. -/
structure Gathered where
  verbose : Bool := false
  quiet : Bool := false
  env : Bool := false
  inPlace : Bool := false
  id : Option UInt32 := none
  brand : Option String := none
  engine : Option Engine := none
  camera : Option Camera := none
  smartphone : Option Smartphone := none
  adas : Option Adas := none
  format : Option Format := none
  output : Option Path := none
  operands : List String := []
  deriving DecidableEq, Repr

namespace Gathered

/-- The number that a value writes: a decimal of 64 bits with a sign that fits a word. -/
def word? (s : String) : Option UInt32 :=
  (Decimal.signed? s.toList).bind fun n ↦
    if 0 ≤ n then Decimal.fitWord n.toNat else none

/-- The path that a value writes; every text but the empty one is a path. -/
def path? (s : String) : Option Path :=
  if s.isEmpty then none else some (.ofText s)

/-- What a value given to an option is; the option must not have a value yet. -/
def once {α : Type} (old : Option α) (new? : Option α) : Except Stop (Option α) :=
  match old, new? with
  | none, some a => .ok (some a)
  | _, _ => .error .malformed

/-- Whether a flag is set now; it must not have been set before. -/
def raise (old : Bool) : Except Stop Bool :=
  if old then .error .malformed else .ok true

/-- Takes a flag. -/
def flag (g : Gathered) : Key → Except Stop Gathered
  | .help => .error .help
  | .version => .error .version
  | .verbose => return { g with verbose := ← raise g.verbose }
  | .quiet => return { g with quiet := ← raise g.quiet }
  | .env => return { g with env := ← raise g.env }
  | .inPlace => return { g with inPlace := ← raise g.inPlace }
  | _ => .error .malformed

/-- Takes an option with a value. -/
def option (g : Gathered) (value : String) : Key → Except Stop Gathered
  | .id => return { g with id := ← once g.id (word? value) }
  | .brand => return { g with brand := ← once g.brand (some value) }
  | .engine => return { g with engine := ← once g.engine (Member.ofName? value) }
  | .camera => return { g with camera := ← once g.camera (Member.ofName? value) }
  | .smartphone =>
    return { g with smartphone := ← once g.smartphone (Member.ofName? value) }
  | .adas => return { g with adas := ← once g.adas (Member.ofName? value) }
  | .format => return { g with format := ← once g.format (Format.ofName? value) }
  | .output => return { g with output := ← once g.output (path? value) }
  | _ => .error .malformed

/-- Whether a text may stand as an operand of a verb after some others. -/
def admits (v : Verb) (before : Nat) (text : String) : Bool :=
  match v with
  | .create => false
  | .merge => (path? text).isSome
  | .set => before != 0 || (path? text).isSome
  | .validate => before == 0 && (path? text).isSome
  | .completions => before == 0 && (Shell.ofName? text).isSome

/-- Takes an item after a verb. -/
def take (v : Verb) (g : Gathered) : Item → Except Stop Gathered
  | .flag k => g.flag k
  | .option k value => g.option value k
  | .operand text =>
    if admits v g.operands.length text then .ok { g with operands := g.operands ++ [text] }
    else .error .malformed
  | .malformed => .error .malformed

/-- Where the result goes to. -/
def target (g : Gathered) : Target :=
  match g.output with
  | some path => .file path
  | none => .standard (g.format.getD .standard)

/-- The command of a verb, if all that it needs was given. -/
def command? (v : Verb) (g : Gathered) : Option Command :=
  match v, g.operands with
  | .create, _ => do
    return .create (← g.id) (← g.brand) (← g.engine) g.camera g.smartphone g.adas g.target
  | .merge, base :: update :: more =>
    some (.merge (.ofText base) ((update :: more).map .ofText) g.env g.target)
  | .set, file :: assignment :: more =>
    some (.set (.ofText file) (assignment :: more)
      (if g.inPlace then .file (.ofText file) else g.target))
  | .validate, [file] => some (.validate (.ofText file))
  | .completions, [shell] => (Shell.ofName? shell).map .completions
  | _, _ => none

end Gathered

namespace Invocation

/-- Whether an argument before the verb is taken for flags. -/
def isLeading (arg : String) : Bool :=
  arg.toList.head? == some '-' && arg != "-" && arg != "--"

/-- What to do after a request for help on some verbs. -/
def helpOn : List String → Stop
  | [] => .help
  | [topic] => if topic == "help" || (Verb.ofName? topic).isSome then .help else .malformed
  | _ => .malformed

/-- Reads a command line. -/
def parse (args : List String) : Except Stop Invocation := do
  let items := Item.ofArguments Key.leading (args.takeWhile isLeading)
  let before ← items.foldlM (Gathered.take .create) {}
  match args.dropWhile isLeading with
  | [] => .error .malformed
  | word :: rest =>
    if word == "help" then .error (helpOn rest)
    else
      match Verb.ofName? word with
      | none => .error .malformed
      | some v =>
        let given ← (Item.ofArguments v.keys rest).foldlM (Gathered.take v) {}
        match given.command? v with
        | none => .error .malformed
        | some command =>
          return {
            verbose := before.verbose || given.verbose
            quiet := before.quiet || given.quiet
            command }

end Invocation

end Fitout
