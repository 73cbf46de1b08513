import Fitout.Environment
import Fitout.Steps
import Fitout.Text.Lowercase

/-!
# Log records and verbosity

A record has a severity and a text. A verbosity lets through the records up to some severity:
`quiet` none, `normal` errors and warnings, `verbose` all of them. It is chosen by the flags of a
run, then by a variable of its environment, and is `normal` otherwise.

A process may start logging more than once. What it does with its log is a sequence of events, each
of which is a step (`Log.step`).
-/

namespace Fitout

/-- How serious a record is, the most serious first. -/
inductive Severity
  | error
  | warn
  | info
  | debug
  | trace
  deriving DecidableEq, Repr

namespace Severity

/-- How many severities come before this one. -/
def rank : Severity → Nat
  | error => 0
  | warn => 1
  | info => 2
  | debug => 3
  | trace => 4

/-- The word that introduces a record. -/
def tag : Severity → String
  | error => "ERROR"
  | warn => "WARN"
  | info => "INFO"
  | debug => "DEBUG"
  | trace => "TRACE"

/-- Reads a severity from its word in lower case. -/
def ofName? (s : String) : Option Severity :=
  [error, warn, info, debug, trace].find? fun v ↦ v.tag.toList.map Char.toLower == s.toList

end Severity

/-- The least serious records that are let through; `none` lets through nothing. -/
abbrev Ceiling :=
  Option Severity

namespace Ceiling

/-- Whether a record of a severity is let through. -/
def admits (c : Ceiling) (s : Severity) : Bool :=
  match c with
  | some least => s.rank ≤ least.rank
  | none => false

/-- The word for a ceiling. -/
def tag (c : Ceiling) : String :=
  match c with
  | some least => least.tag
  | none => "OFF"

end Ceiling

/-- How much a run reports, the least first. -/
inductive Verbosity
  | quiet
  | normal
  | verbose
  deriving DecidableEq, Repr

namespace Verbosity

/-- The verbosity used when nothing else is said. -/
def standard : Verbosity :=
  normal

/-- The name of a verbosity. -/
def name : Verbosity → String
  | quiet => "quiet"
  | normal => "normal"
  | verbose => "verbose"

instance : ToString Verbosity :=
  ⟨name⟩

/-- How many verbosities come before this one. -/
def rank : Verbosity → Nat
  | quiet => 0
  | normal => 1
  | verbose => 2

/-- Verbosities are ordered by how much they report. -/
instance : Ord Verbosity :=
  ⟨fun a b ↦ compare a.rank b.rank⟩

/-- The verbosity of a name in any case. -/
def ofName? (s : String) : Option Verbosity :=
  [quiet, normal, verbose].find? fun v ↦ v.name.toList == Text.lowercaseAll s.toList

/-- Reads the name of a verbosity. -/
def parse (s : String) : Except String Verbosity :=
  match ofName? s with
  | some v => .ok v
  | none => .error ("invalid log level: " ++ s)

/-- The records that a verbosity lets through. -/
def ceiling : Verbosity → Ceiling
  | quiet => none
  | normal => some .warn
  | verbose => some .trace

/-- Whether a record of a severity is let through. -/
def admits (v : Verbosity) (s : Severity) : Bool :=
  Ceiling.admits v.ceiling s

/-- The variable that chooses the verbosity of a run without flags. -/
def variableName : String :=
  "CARCONF_LOG_MODE"

/-- The verbosity of a run: `verbose` wins over `quiet`, and either flag over the variable. -/
def resolve (verboseFlag quietFlag : Bool) (env : Environment) : Verbosity :=
  if verboseFlag then verbose
  else if quietFlag then quiet
  else ((env.get? variableName).bind ofName?).getD standard

end Verbosity

/-- An entry of the log. -/
structure Record where
  /-- How serious the entry is. -/
  severity : Severity
  /-- What it says. -/
  text : String
  deriving DecidableEq, Repr

/-- The line of a record, without its end. -/
def Record.line (r : Record) : String :=
  r.severity.tag ++ ": " ++ r.text

/-- The log of a process. The sink is installed once and keeps its verbosity; the ceiling in front
of it follows the latest start. -/
structure Log where
  /-- The verbosity of the installed sink. -/
  sink : Option Verbosity := none
  /-- What is let through to the sink. -/
  ceiling : Ceiling := none
  deriving DecidableEq, Repr

namespace Log

/-- Starts logging at a verbosity. The first start installs a sink that takes everything; every
start sets the ceiling. -/
def start (log : Log) (v : Verbosity) : Log where
  sink := log.sink <|> some .verbose
  ceiling := v.ceiling

/-- Whether a record of a severity is written. -/
def writes (log : Log) (s : Severity) : Bool :=
  log.ceiling.admits s && log.sink.any (·.admits s)

/-! ### Events -/

/-- What a process does with its log. -/
inductive Event
  /-- Logging is started with the two flags, in the environment of the moment. -/
  | start (verboseFlag quietFlag : Bool) (env : Environment)
  /-- A record is made. -/
  | record (r : Record)

/-- What comes of an event. -/
inductive Effect
  /-- The start gives the verbosity that it chose. -/
  | started (v : Verbosity)
  /-- The record is a line on standard error. -/
  | written (line : String)
  /-- The record is not let through. -/
  | dropped
  deriving DecidableEq, Repr

/-- What comes of an event, and the log after it. -/
def step (log : Log) : Event → Effect × Log
  | .start verboseFlag quietFlag env =>
    let v := Verbosity.resolve verboseFlag quietFlag env
    (.started v, log.start v)
  | .record r => (if log.writes r.severity then .written r.line else .dropped, log)

/-- What comes of the events of a process, in their order. -/
def effects (events : List Event) : List Effect :=
  (Steps.run step {} events).1

/-- The log of a process after some events. -/
def after (events : List Event) : Log :=
  (Steps.run step {} events).2

end Log

end Fitout
