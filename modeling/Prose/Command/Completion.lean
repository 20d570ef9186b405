import Prose.Command.Scope

/-!
# Completions

Scripts that let a shell complete the names of the commands.
-/

namespace Prose

/-- The names of the scopes below. -/
def Scope.names (p : Scope) : List Text :=
  p.children.map fun (name, _) => name.toList

namespace Shell

/-- The script that completes the first argument to one of the names. -/
def completion (shell : Shell) (names : List Text) : Text :=
  match shell with
  | .bash => "complete -W '".toList ++ Text.join [' '] names ++ "' textree".toList
  | .elvish =>
    "set edit:completion:arg-completer[textree] = \x7b|@words| put ".toList
      ++ Text.join [' '] names ++ " \x7d".toList
  | .fish => "complete -c textree -n __fish_use_subcommand -a '".toList
      ++ Text.join [' '] names ++ ['\'']
  | .powershell =>
    "Register-ArgumentCompleter -Native -CommandName textree -ScriptBlock \x7b ".toList
      ++ Text.join [',', ' '] (names.map fun name => '\'' :: name ++ ['\'']) ++ " \x7d".toList
  | .zsh => "#compdef textree\ncompadd ".toList ++ Text.join [' '] names

end Shell

end Prose
