import Fitout.Command.Arguments

/-!
# Wording

The texts that are made from the tables of the grammar. What a program does with them does not
depend on what they say, so they are given to it.
-/

namespace Fitout

/-- The name by which a shell calls the program. -/
def programName : String :=
  "carconf"

/-- The texts that are made from the tables of the grammar. -/
structure Wording where
  /-- How the program is called. -/
  usage : String
  /-- The script that completes the words of a command line in a shell. -/
  script : Shell → String

end Fitout
