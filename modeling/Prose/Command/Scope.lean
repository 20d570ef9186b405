import Prose.Command.Basic
import Prose.Text.Decimal

/-!
# Scopes of a command line

A command line starts in the scope of the program and may enter the scope of a command and of a part
of it. A scope has its switches, and it has either scopes below it or at most one operand.
-/

namespace Prose

/-- An argument with a name. -/
inductive Switch
  | debug
  | configDir
  | depth
  | symbol
  | minWords
  | help
  | version
  deriving DecidableEq, Repr

namespace Switch

def long : Switch → Text
  | .debug => "debug".toList
  | .configDir => "config-dir".toList
  | .depth => "depth".toList
  | .symbol => "symbol".toList
  | .minWords => "min-words".toList
  | .help => "help".toList
  | .version => "version".toList

def short? : Switch → Option Char
  | .debug => some 'd'
  | .configDir => some 'C'
  | .depth => none
  | .symbol => some 's'
  | .minWords => some 'm'
  | .help => some 'h'
  | .version => some 'V'

def takesValue : Switch → Bool
  | .configDir => true
  | .depth => true
  | .symbol => true
  | .minWords => true
  | _ => false

end Switch

/-- What a value is for: a switch, or the operand of the scope. -/
inductive Target
  | switch (s : Switch)
  | operand
  deriving DecidableEq, Repr

/-- Why a command line is not carried out. The first three are answers rather than faults. -/
inductive Refusal
  | help
  | version (text : Text)
  | helpInstead
  | unknownArgument
  | unknownSubcommand
  | missingSubcommand
  | missingOperand
  | unexpectedValue
  | repeated
  | badValue
  | malformedValue
  deriving DecidableEq, Repr

/-- Asking for help or for the version is a success. -/
def Refusal.exitCode : Refusal → Nat
  | .help => 0
  | .version _ => 0
  | _ => 2

/-- What is said about a command line that is not carried out. -/
def Refusal.message : Refusal → Text
  | .help => "usage: textree [OPTIONS] [COMMAND]".toList
  | .version text => text
  | .helpInstead => "usage: textree config [OPTIONS] <COMMAND>".toList
  | .unknownArgument => "error: unexpected argument".toList
  | .unknownSubcommand => "error: unrecognized subcommand".toList
  | .missingSubcommand => "error: a subcommand is required".toList
  | .missingOperand => "error: a required argument was not provided".toList
  | .unexpectedValue => "error: a value for a flag that takes none".toList
  | .repeated => "error: an argument cannot be used multiple times".toList
  | .badValue => "error: a value is required or not possible".toList
  | .malformedValue => "error: invalid value".toList

/-- Where arguments stand: behind the program, behind a command, or behind a part of it. -/
inductive Scope
  | root
  | task (task : Task)
  | preprocess
  | eval
  | config
  | view (view : SettingsView)
  | completion
  deriving DecidableEq, Repr

namespace Shell

def all : List (String × Shell) :=
  [("bash", bash), ("elvish", elvish), ("fish", fish), ("powershell", powershell), ("zsh", zsh)]

def ofName? (name : Text) : Option Shell :=
  all.lookup (String.ofList name)

end Shell

namespace Scope

/-- The scopes below, by their names. -/
def children : Scope → List (String × Scope)
  | .root => [
      ("parse", .task .parse),
      ("tree", .task (.tree none)),
      ("preprocess", .preprocess),
      ("eval", .eval),
      ("sort-paragraphs", .task .sortParagraphs),
      ("sort-words", .task .sortWords),
      ("sort-lexemes", .task (.sortLexemes none)),
      ("longest", .task .longest),
      ("filter", .task (.filter none)),
      ("duplicates", .task .duplicates),
      ("vowels", .task .vowels),
      ("run", .task .run),
      ("config", .config),
      ("completion", .completion)]
  | .config => [("show", .view .values), ("template", .view .template), ("path", .view .paths)]
  | _ => []

def child? (p : Scope) (name : Text) : Option Scope :=
  p.children.lookup (String.ofList name)

/-- Scopes with others below them can be asked for help by a word. -/
def isHelpWord (p : Scope) (name : Text) : Bool :=
  !p.children.isEmpty && name = "help".toList

/-- The switches that only this scope has. -/
def ownSwitches : Scope → List Switch
  | .task (.tree _) => [.depth]
  | .task (.sortLexemes _) => [.symbol]
  | .task (.filter _) => [.minWords]
  | _ => []

def switches (p : Scope) : List Switch :=
  [.debug, .configDir, .help, .version] ++ p.ownSwitches

def long? (p : Scope) (name : Text) : Option Switch :=
  p.switches.find? (·.long = name)

def short? (p : Scope) (c : Char) : Option Switch :=
  p.switches.find? (·.short? = some c)

def hasOperand : Scope → Bool
  | .task _ => true
  | .preprocess => true
  | .eval => true
  | .completion => true
  | _ => false

/-- An expression may look like a switch. -/
def takesHyphens : Scope → Bool
  | .eval => true
  | _ => false

/-- What is wrong with a value. Paths may not be empty, and shells are known by their names. -/
def fault? (p : Scope) (target : Target) (value : Text) : Option Refusal :=
  match target with
  | .switch .depth =>
    if (Decimal.nat? ((1 <<< 64) - 1) value).isOk then none else some .malformedValue
  | .switch .minWords =>
    if (Decimal.nat? ((1 <<< 64) - 1) value).isOk then none else some .malformedValue
  | .switch .symbol => if value.length = 1 then none else some .malformedValue
  | .switch _ => if value.isEmpty then some .badValue else none
  | .operand =>
    match p with
    | .eval => none
    | .completion => if (Shell.ofName? value).isSome then none else some .badValue
    | _ => if value.isEmpty then some .badValue else none

/-- The answer to a request for help on a path of scopes. -/
def helpOn (p : Scope) : List Text → Refusal
  | [] => .help
  | name :: rest =>
    match p.child? name with
    | some child => helpOn child rest
    | none => if p.isHelpWord name && rest.isEmpty then .help else .unknownSubcommand

end Scope

end Prose
