import Prose.Analysis.Vocabulary
import Prose.Command.Reader
import Prose.Command.Report
import Prose.Expr.Machine
import Prose.Pipeline
import Prose.Settings.Load
import Prose.Settings.Template
import Prose.Tree.Layout
import Prose.Tree.Outline

/-!
# Running commands

A command writes its report step by step and may fail on the way, which does not take back what it
has written. The message of a failure comes last. The settings are loaded before anything else by
every command that needs them.
-/

namespace Prose

/-- Where a command runs. The directory is the one whose settings count unless another is given. -/
structure Surroundings where
  files : Files
  environment : Environment
  directory : Option Text
  colored : Bool
  host : Host := .builtin

/-- What is left of a run: its exit code and what it wrote. -/
structure Outcome where
  code : Nat
  report : Report
  deriving DecidableEq, Repr

/-- A command on its way: what it has written so far is there also when it fails. -/
abbrev Session := ExceptT Failure (StateM Report)

namespace Session

/-- Writes a report behind what has been written. -/
def write (r : Report) : Session Unit :=
  modify (· ++ r)

/-- The result of a session that starts behind `written`, with all that has been written then. -/
def runAfter {α : Type} (x : Session α) (written : Report) : Except Failure α × Report :=
  x.run.run written

end Session

namespace Task

/-- The sentences on lines of their own. -/
def listSentences (sentences : List Node) : Report :=
  .concat (sentences.map fun s => .detail s.render)

/-- The sentences with the longest word, and a warning when there is no word. -/
def longestReport (colored : Bool) (document : Node) : Report :=
  let found := document.longestSentences
  (if found.isEmpty then .warning colored "no words found".toList else .empty)
    ++ listSentences found

/-- The words that occur more than once with their counts, and a warning when there is none. -/
def duplicatesReport (colored : Bool) (document : Node) : Report :=
  let words := document.duplicates
  (if words.isEmpty then .warning colored "no duplicate words".toList else .empty)
    ++ .concat (words.map fun (word, count) =>
      .detail (word ++ [':', ' '] ++ Decimal.ofNat count))

/-- Every sentence with its vowels and consonants counted. -/
def vowelsReport (vowels : VowelSet) (document : Node) : Report :=
  .concat ((document.letterCounts vowels).map fun counts =>
    .detail counts.sentence.render
      ++ .detail ("  vowels: ".toList ++ Decimal.ofNat counts.vowels
        ++ ", consonants: ".toList ++ Decimal.ofNat counts.consonants))

/-- All analyses one after the other, each behind a header. -/
def runReport (colored : Bool) (s : Settings) (document : Node) : Report :=
  let header (t : Text) : Report := .header colored ("=== ".toList ++ t ++ " ===".toList)
  .concat [
    header "Original text".toList,
    .line document.layout,
    header "Paragraphs sorted by number of sentences".toList,
    .line document.sortParagraphs.layout,
    header "Words sorted by length".toList,
    .line document.sortWords.layout,
    header ("Lexemes reverse-sorted by occurrences of ".toList ++ Quoted.char s.orderSymbol),
    .line (document.sortLexemes s.orderSymbol).layout,
    header "Sentences with the longest word".toList,
    listSentences document.longestSentences,
    header ("Sentences with at least ".toList ++ Decimal.ofNat s.minWords ++ " words".toList),
    .line (document.dropShortSentences s.minWords).layout,
    header "Duplicate words".toList,
    duplicatesReport colored document,
    header "Vowels and consonants per sentence".toList,
    vowelsReport s.vowelSet document,
    .success colored "text processing completed".toList]

/-- What a task reports of a document. -/
def report (colored : Bool) (s : Settings) (document : Node) : Task → Report
  | .parse => .line document.layout
  | .tree depth => .line (document.outline depth).text
  | .sortParagraphs => .line document.sortParagraphs.layout
  | .sortWords => .line document.sortWords.layout
  | .sortLexemes symbol => .line (document.sortLexemes (symbol.getD s.orderSymbol)).layout
  | .longest => longestReport colored document
  | .filter minWords => .line (document.dropShortSentences (minWords.getD s.minWords)).layout
  | .duplicates => duplicatesReport colored document
  | .vowels => vowelsReport s.vowelSet document
  | .run => runReport colored s document

end Task

namespace Surroundings

/-- Shows the settings, the template, or where the settings files are. -/
def showSettings (w : Surroundings) (dir : Option Text) (s : Settings) :
    SettingsView → Session Unit
  | .values => do .write (.line (← s.text))
  | .template => .write (.line Settings.template)
  | .paths => do
    .write (
      match w.environment.settingsFile? (w.environment.home? w.host.recordedHome) with
      | some path => .labelled w.colored "global" path
      | none => .warning w.colored "no global config directory".toList)
    match dir with
    | some dir => .write (.labelled w.colored "local" (Settings.localFile dir))
    | none => return

/-- Shows the postfix form and the value of an expression. -/
def showValue (w : Surroundings) (expression : Text) : Session Unit := do
  let e ← (Expr.Postfix.ofInfix expression).mapError Failure.ofExpr
  let value ← e.eval.mapError Failure.ofExpr
  .write (.labelled w.colored "postfix" e.text)
  .write (.labelled w.colored "value" (Decimal.ofInt value.toInt))

/-- Carries out a command. -/
def perform (w : Surroundings) (dir : Option Text) : Command → Session Unit
  | .completion shell => .write ⟨w.host.completion shell, []⟩
  | .eval expression => w.showValue expression
  | .config view => do
    let s ← Settings.load w.files w.environment dir w.host
    w.showSettings dir s view
  | .preprocess file => do
    let s ← Settings.load w.files w.environment dir w.host
    let p ← Pipeline.ofSettings s w.host
    let t ← Pipeline.read w.files (file.getD s.inputPath)
    .write (.line (p.preprocess t))
  | .task task file => do
    let s ← Settings.load w.files w.environment dir w.host
    let p ← Pipeline.ofSettings s w.host
    let document ← p.create w.files (file.getD s.inputPath)
    .write (task.report w.colored s document)

/-- The directory whose settings count for a command line. -/
def settingsDir (w : Surroundings) (line : CommandLine) : Option Text :=
  line.configDir <|> w.directory

/-- The text file that a command line reads, when its settings can be loaded. -/
def input? (w : Surroundings) (line : CommandLine) : Option Text :=
  let path (file : Option Text) : Option Text :=
    match Settings.load w.files w.environment (w.settingsDir line) w.host with
    | .ok s => some (file.getD s.inputPath)
    | .error _ => none
  match line.command with
  | some (.task _ file) => path file
  | some (.preprocess file) => path file
  | _ => none

/-- Carries out the command of a command line. -/
def execute (w : Surroundings) (line : CommandLine) : Session Unit :=
  match line.command with
  | none => throw (.usage "no command given, see `textree --help`".toList)
  | some command => w.perform (w.settingsDir line) command

/-- The run of a command line, from its start with nothing written. -/
def run (w : Surroundings) (line : CommandLine) : Outcome :=
  match (w.execute line).runAfter .empty with
  | (.ok _, written) => ⟨0, written⟩
  | (.error failure, written) =>
    ⟨failure.exitCode, written ++ .failure w.colored failure.message⟩

end Surroundings

end Prose
