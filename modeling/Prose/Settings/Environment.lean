import Prose.Settings.Basic
import Prose.Text.Lowercase
import Prose.Text.Quoted

/-!
# Settings from the environment

A variable whose name starts with `TEXTREE_` in any letter case is a setting. The rest of its name
is the key of the setting in lowercase, where two underscores stand between a section and the key in
it. A count or a symbol that cannot be read is a failure, and a truth value that cannot be read is
as good as absent.
-/

namespace Prose

/-- Names of variables with their values. -/
abbrev Environment := List (Text × Text)

namespace Environment

/-- Writes a dot for two underscores, from left to right. -/
def dotted : Text → Text
  | '_' :: '_' :: rest => '.' :: dotted rest
  | c :: rest => c :: dotted rest
  | [] => []

/-- The key of the setting that a variable names. -/
def key? (name : Text) : Option Text :=
  let lower := name.lower
  if "textree_".toList.isPrefixOf lower then some (dotted (lower.drop 8)) else none

/-- The value for the setting with a key. -/
def setting? (env : Environment) (key : String) : Option Text :=
  (env.find? fun (name, _) => key? name = some key.toList).map (·.2)

/-- The largest count. -/
def maxCount : Nat :=
  (1 <<< 64) - 1

def count (t : Text) : Except Failure Nat :=
  match Decimal.nat? maxCount t with
  | .ok n => .ok n
  | .error fault =>
    .error (.config ("TEXTREE_MIN_WORDS=".toList ++ t ++ ": ".toList ++ fault.message))

def symbol : Text → Except Failure Char
  | [c] => .ok c
  | t => .error
    (.config ("TEXTREE_ORDER_SYMBOL must be one character, got ".toList ++ Quoted.text t))

/-- The words for yes and no in any letter case. -/
def boolean? (t : Text) : Option Bool :=
  let word := String.ofList t.lower
  if word ∈ ["1", "true", "on", "yes"] then some true
  else if word ∈ ["0", "false", "off", "no"] then some false
  else none

/-- What `read` makes of a value that may be absent. -/
def readIfGiven {α : Type} (read : Text → Except Failure α) :
    Option Text → Except Failure (Option α)
  | none => .ok none
  | some t => some <$> read t

/-- The settings that the environment specifies. -/
def overlay (env : Environment) : Except Failure Overlay := do
  return {
    inputPath := env.setting? "input_path"
    minWords := ← readIfGiven count (env.setting? "min_words")
    orderSymbol := ← readIfGiven symbol (env.setting? "order_symbol")
    vowels := env.setting? "vowels"
    preprocess := (env.setting? "preprocess.enabled").bind boolean?
    delimiter := env.setting? "parser.paragraph_delimiter" }

end Environment

end Prose
