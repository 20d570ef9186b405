import Prose.Text

/-!
# Hexadecimal digits

The sixteen digits with their values, and the characters that numbers stand for. Letters are read
in either case and written in upper case.
-/

namespace Prose.Hexadecimal

/-- The value of a digit. -/
def digit? (c : Char) : Option Nat :=
  if c.isDigit then some (c.toNat - 48)
  else if 'a' ≤ c && c ≤ 'f' then some (c.toNat - 87)
  else if 'A' ≤ c && c ≤ 'F' then some (c.toNat - 55)
  else none

def isDigit (c : Char) : Bool :=
  (digit? c).isSome

/-- The digit with a value below sixteen. -/
def ofDigit (n : Nat) : Char :=
  if n < 10 then Char.ofNat (48 + n) else Char.ofNat (55 + n)

/-- The character with a number, if there is one. -/
def char? (n : Nat) : Option Char :=
  if n.isValidChar then some (Char.ofNat n) else none

end Prose.Hexadecimal
