import Prose.Text

/-!
# Decimal numerals

Writing integers in decimal and reading numerals with an optional sign. Reading goes from left to
right and the first fault decides, so a numeral with two faults has one answer.
-/

namespace Prose.Decimal

/-- The digits of `n`, without leading zeros. -/
def ofNat (n : Nat) : Text :=
  Nat.toDigits 10 n

/-- The digits of `i`, after a minus sign when it is negative. -/
def ofInt : Int → Text
  | .ofNat n => ofNat n
  | .negSucc n => '-' :: ofNat (n + 1)

/-- The value of an ASCII digit. -/
def digit (c : Char) : Nat :=
  c.toNat - '0'.toNat

/-- The number that a list of digits spells. -/
def value (ds : Text) : Nat :=
  ds.foldl (fun n d => 10 * n + digit d) 0

/-- Why a numeral cannot be read. -/
inductive Fault
  | empty
  | invalidDigit
  | tooLarge
  deriving DecidableEq, Repr

def Fault.message : Fault → Text
  | .empty => "cannot parse integer from empty string".toList
  | .invalidDigit => "invalid digit found in string".toList
  | .tooLarge => "number too large to fit in target type".toList

/-- Reads digits after the value `n`; the value never exceeds `limit`. -/
def digits? (limit : Nat) (n : Nat) : Text → Except Fault Nat
  | [] => .ok n
  | c :: rest =>
    if !c.isDigit then .error .invalidDigit
    else if limit < 10 * n + digit c then .error .tooLarge
    else digits? limit (10 * n + digit c) rest

/-- Reads a numeral of at least one digit, with an optional plus sign, up to `limit`. -/
def nat? (limit : Nat) : Text → Except Fault Nat
  | [] => .error .empty
  | ['+'] => .error .invalidDigit
  | '+' :: rest => digits? limit 0 rest
  | t => digits? limit 0 t

/-- Reads a signed 32-bit integer. -/
def int32? (t : Text) : Option Int32 :=
  match t with
  | '-' :: c :: rest => (digits? (1 <<< 31) 0 (c :: rest)).toOption.map (Int32.ofInt <| -·)
  | _ => (nat? ((1 <<< 31) - 1) t).toOption.map Int32.ofNat

end Prose.Decimal
