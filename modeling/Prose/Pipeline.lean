import Prose.Expr.Embedded
import Prose.Files
import Prose.Host
import Prose.Settings.Basic

/-!
# From a file to its document

The text of a file is read without its line ends, the expressions in it are replaced by their
values unless the settings say otherwise, and the result is parsed into a document.
-/

namespace Prose

/-- How texts are prepared and cut. -/
structure Pipeline where
  delimiter : Pattern
  substitutes : Bool

namespace Pipeline

def ofSettings (s : Settings) (host : Host := .builtin) : Except Failure Pipeline :=
  match host.compile s.delimiter with
  | .ok delimiter => .ok ⟨delimiter, s.preprocess⟩
  | .error reason => .error (.config ("parser.paragraph_delimiter: ".toList ++ reason))

/-- A text without its line ends: line feeds, each with one carriage return right before it. -/
def joinLines : Text → Text
  | [] => []
  | '\n' :: rest => joinLines rest
  | '\r' :: '\n' :: rest => joinLines rest
  | c :: rest => c :: joinLines rest

/-- The text of a file without its line ends, which may not be empty. -/
def read (files : Files) (path : Text) : Except Failure Text :=
  match files path with
  | some (.file content) =>
    let t := joinLines content
    if t.isEmpty then .error (.missingInput ("no text in ".toList ++ path)) else .ok t
  | some (.unreadable reason) =>
    .error (.operationFailed ("read input: ".toList ++ path) reason)
  | _ => .error (.missingInput ("file not found: ".toList ++ path))

/-- Replaces the expressions in a text, unless that is switched off. -/
def preprocess (p : Pipeline) (t : Text) : Text :=
  if p.substitutes then Expr.Embedded.substitute t else t

/-- The document of a text that does not consist of white space alone. -/
def parse (p : Pipeline) (t : Text) : Except Failure Node :=
  if t.all isSpace then .error (.missingInput "empty text".toList)
  else .ok (Parse.document p.delimiter t)

/-- The document of a file. -/
def create (p : Pipeline) (files : Files) (path : Text) : Except Failure Node := do
  p.parse (p.preprocess (← read files path))

end Pipeline

end Prose
