import Prose.Text

/-!
# Commands

What the program can be asked to do. A task works on the document of a file; the other commands
need no document.
-/

namespace Prose

/-- What is done with a document. A symbol or a number of words that is not given comes from the
settings. -/
inductive Task
  | parse
  | tree (depth : Option Nat)
  | sortParagraphs
  | sortWords
  | sortLexemes (symbol : Option Char)
  | longest
  | filter (minWords : Option Nat)
  | duplicates
  | vowels
  | run
  deriving DecidableEq, Repr

/-- What is shown of the settings. -/
inductive SettingsView
  | values
  | template
  | paths
  deriving DecidableEq, Repr

/-- The shells whose completions can be written. -/
inductive Shell
  | bash
  | elvish
  | fish
  | powershell
  | zsh
  deriving DecidableEq, Repr

/-- A command. Without a file the input path of the settings is read. -/
inductive Command
  | task (task : Task) (file : Option Text)
  | preprocess (file : Option Text)
  | eval (expression : Text)
  | config (view : SettingsView)
  | completion (shell : Shell)
  deriving DecidableEq, Repr

/-- A command line: the directory of the local settings and the command, when they are given. -/
structure CommandLine where
  configDir : Option Text
  command : Option Command
  deriving DecidableEq, Repr

end Prose
