import Prose.Text.Property.Unprintable

/-!
# Quoted texts

A text or a character between quotation marks on one line. The mark itself and the backslash are
escaped, a few controls have short names, and every other character without a shape of its own is
given by its number.
-/

namespace Prose.Quoted

/-- A code point in lowercase hexadecimal. -/
def byNumber (c : Char) : Text :=
  "\\u\x7b".toList ++ Nat.toDigits 16 c.toNat ++ ['\x7d']

/-- One character between marks `mark`. -/
def escape (mark : Char) (c : Char) : Text :=
  if c = '\x00' then ['\\', '0']
  else if c = '\t' then ['\\', 't']
  else if c = '\r' then ['\\', 'r']
  else if c = '\n' then ['\\', 'n']
  else if c = '\\' || c = mark then ['\\', c]
  else if Property.unprintable.contains c then byNumber c
  else [c]

/-- The text between double marks. -/
def text (t : Text) : Text :=
  '"' :: t.flatMap (escape '"') ++ ['"']

/-- The character between single marks. -/
def char (c : Char) : Text :=
  '\'' :: escape '\'' c ++ ['\'']

end Prose.Quoted
