import Prose.Analysis.Vowels
import Prose.Failure
import Prose.Parse.Document
import Prose.Text.Decimal
import Prose.Toml.Document
import Prose.Toml.Written

/-!
# Settings

The six settings of the program, the overlays that replace some of them, and their written form.
An overlay names the settings that one layer specifies; a later layer wins where it says something.
-/

namespace Prose

/-- The settings. Sentences with fewer than `minWords` words are short, and `orderSymbol` is the
character by which lexemes are ordered. -/
structure Settings where
  inputPath : Text
  minWords : Nat
  orderSymbol : Char
  vowels : Text
  preprocess : Bool
  delimiter : Text
  deriving DecidableEq, Repr

/-- The settings that one layer specifies. -/
structure Overlay where
  inputPath : Option Text
  minWords : Option Nat
  orderSymbol : Option Char
  vowels : Option Text
  preprocess : Option Bool
  delimiter : Option Text
  deriving DecidableEq, Repr

namespace Settings

/-- The settings that hold when no layer says anything. -/
def standard : Settings where
  inputPath := "data/input.txt".toList
  minWords := 3
  orderSymbol := 'a'
  vowels := "aeiouy".toList
  preprocess := true
  delimiter := Parse.defaultDelimiter

/-- Replaces the settings that an overlay specifies. -/
def under (s : Settings) (o : Overlay) : Settings where
  inputPath := o.inputPath.getD s.inputPath
  minWords := o.minWords.getD s.minWords
  orderSymbol := o.orderSymbol.getD s.orderSymbol
  vowels := o.vowels.getD s.vowels
  preprocess := o.preprocess.getD s.preprocess
  delimiter := o.delimiter.getD s.delimiter

def vowelSet (s : Settings) : VowelSet :=
  .ofText s.vowels

/-- One line of the written form. -/
def entry (key : String) (value : Text) : Text :=
  key.toList ++ [' ', '=', ' '] ++ value ++ ['\n']

/-- The settings as a document. A count above the signed 64-bit range has no written form. -/
def text (s : Settings) : Except Failure Text :=
  if 1 <<< 63 ≤ s.minWords then
    .error (.config "serialize config: min_words is out of range".toList)
  else
    .ok (entry "input_path" (Toml.Written.string s.inputPath)
      ++ entry "min_words" (Decimal.ofNat s.minWords)
      ++ entry "order_symbol" (Toml.Written.string [s.orderSymbol])
      ++ entry "vowels" (Toml.Written.string s.vowels)
      ++ "\n[preprocess]\n".toList
      ++ entry "enabled" (if s.preprocess then "true".toList else "false".toList)
      ++ "\n[parser]\n".toList
      ++ entry "paragraph_delimiter" (Toml.Written.string s.delimiter))

end Settings

namespace Overlay

def string? : Toml.Value → Option Text
  | .string t => some t
  | _ => none

def count? : Toml.Value → Option Nat
  | .integer (.ofNat n) => some n
  | _ => none

def symbol? : Toml.Value → Option Char
  | .string [c] => some c
  | _ => none

def boolean? : Toml.Value → Option Bool
  | .boolean b => some b
  | _ => none

/-- A setting that may be absent; what is there has to be of the right kind. -/
def field? {α : Type} (read : Toml.Value → Option α) (key : String)
    (entries : List (Text × Toml.Value)) : Option (Option α) :=
  match entries.lookup key.toList with
  | none => some none
  | some v => (read v).map some

/-- A setting in a section of its own. A section may also be an array whose first item is the
setting; a moment counts as an empty section. -/
def section? {α : Type} (read : Toml.Value → Option α) (name key : String)
    (entries : List (Text × Toml.Value)) : Option (Option α) :=
  match entries.lookup name.toList with
  | none => some none
  | some (.table fields) => field? read key fields
  | some (.array []) => some none
  | some (.array (v :: _)) => (read v).map some
  | some (.moment _) => some none
  | some _ => none

/-- The settings that a document specifies. Other keys do not count. -/
def ofEntries? (entries : List (Text × Toml.Value)) : Option Overlay := do
  return {
    inputPath := ← field? string? "input_path" entries
    minWords := ← field? count? "min_words" entries
    orderSymbol := ← field? symbol? "order_symbol" entries
    vowels := ← field? string? "vowels" entries
    preprocess := ← section? boolean? "preprocess" "enabled" entries
    delimiter := ← section? string? "parser" "paragraph_delimiter" entries }

/-- The settings that a text specifies. -/
def ofText? (t : Text) : Option Overlay := do
  ofEntries? (← Toml.ofText? t)

end Overlay

end Prose
