import Prose.Text.Property.CaseIgnorable
import Prose.Text.Property.Cased
import Prose.Text.Property.Lowercase

/-!
# Lowercase

The lowercase of a text goes character by character with two exceptions: the capital I with a dot
becomes two characters, and a capital sigma at the end of a word becomes a final sigma.
-/

namespace Prose.Text

/-- Is the first character that case rules do not look through a cased one? -/
def leadsToCased (t : Text) : Bool :=
  ((t.dropWhile Property.caseIgnorable.contains).head?).any Property.cased.contains

/-- The lowercase of `c` after the text whose reverse is `before` and in front of `after`. -/
def lowerChar (before : Text) (c : Char) (after : Text) : Text :=
  if c = '\u0130' then ['i', '\u0307']
  else if c = 'Σ' then
    if leadsToCased before && !leadsToCased after then ['ς'] else ['σ']
  else [Property.lowercase.apply c]

/-- Lowercase of a text after the text whose reverse is `before`. -/
def lowerAfter (before : Text) : Text → Text
  | [] => []
  | c :: rest => lowerChar before c rest ++ lowerAfter (c :: before) rest

/-- The lowercase of a text. -/
def lower (t : Text) : Text :=
  lowerAfter [] t

end Prose.Text
