import Prose.Command.Completion
import Prose.Pattern.Reader

/-!
# Hosts

What the program relies on and does not decide itself: the language of patterns, the words for what
is wrong with a settings file, the system's record of the user, and the completion scripts. A
function that needs one of them takes a host, and what is said about the program is said for all
hosts.
-/

namespace Prose

/-- What is left to the surroundings of the program. `compile` gives the pattern that a text spells
or says what is wrong with the text, and `settingsFault` says what is wrong with the content of a
settings file. The recorded home is the one in the system's record of the user. -/
structure Host where
  compile : Text → Except Text Pattern
  settingsFault : Text → Text
  recordedHome : Option Text
  completion : Shell → Text

/-- The host that comes with the library. It knows the patterns that `Pattern.ofText?` reads, and it
has no record of the user. -/
def Host.builtin : Host where
  compile t :=
    match Pattern.ofText? t with
    | some r => .ok r
    | none => .error "not a pattern".toList
  settingsFault _ := "no settings".toList
  recordedHome := none
  completion shell := shell.completion Scope.root.names

end Prose
