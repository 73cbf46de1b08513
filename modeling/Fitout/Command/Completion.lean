import Fitout.Command.Wording

/-!
# Hints on completion

How to install the completion script of a shell.
-/

namespace Fitout.Completion

/-- How to install the script of a shell, where one line tells it. -/
def installation? : Shell → Option String
  | .bash => some ("eval \"$(" ++ programName ++ " completions bash)\"")
  | .elvish => none
  | .fish => some (programName ++ " completions fish | source")
  | .powershell => some (programName ++ " completions powershell | Out-String | Invoke-Expression")
  | .zsh => some (programName ++ " completions zsh > ~/.zsh/completions/_" ++ programName)

/-- The lines that go with the script of a shell. -/
def hint (shell : Shell) : List String :=
  ("# Generating " ++ shell.name ++ " completion script") ::
    ((installation? shell).map ("#   " ++ ·)).toList

end Fitout.Completion
