import Fitout.Command.Wording

/-!
# Answers to a stop

What is said, and with which exit code, when there is no command to carry out: the usage when help
was asked for, the version, or the usage again as a complaint.
-/

namespace Fitout

/-- The version of the program. -/
def version : String :=
  "0.1.0"

namespace Stop

/-- The exit code of a stop. -/
def exitCode : Stop → Nat
  | help | version => 0
  | malformed => 2

/-- The text on standard output. -/
def stdout (wording : Wording) : Stop → String
  | help => wording.usage
  | version => programName ++ " " ++ Fitout.version ++ "\n"
  | malformed => ""

/-- The text on standard error. -/
def stderr (wording : Wording) : Stop → String
  | help | version => ""
  | malformed => wording.usage

end Stop

end Fitout
