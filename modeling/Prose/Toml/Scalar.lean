import Prose.Text.Hexadecimal
import Prose.Toml.Moment
import Prose.Toml.Value

/-!
# Numbers and truth values of a TOML document

What an unquoted word means where a value stands. Underscores may stand between two digits.
Integers have 64 bits with their sign; a float that would round to positive infinity is refused.
-/

namespace Prose.Toml

namespace Number

/-- Digits with single underscores between them, without the underscores. -/
def digits? (isDigit : Char → Bool) : Text → Option Text
  | [] => none
  | [c] => if isDigit c then some [c] else none
  | c :: '_' :: rest => if isDigit c then (digits? isDigit rest).map (c :: ·) else none
  | c :: d :: rest => if isDigit c then (digits? isDigit (d :: rest)).map (c :: ·) else none

/-- A whole decimal part: no zero leads other digits. -/
def whole? : Text → Option Text
  | ['0'] => some ['0']
  | '0' :: _ => none
  | t => digits? Char.isDigit t

/-- The number that digits of any base up to sixteen spell. -/
def inBase (base : Nat) (digits : Text) : Nat :=
  digits.foldl (fun n d => base * n + (Hexadecimal.digit? d).getD 0) 0

/-- An integer within 64 bits. -/
def int64? (i : Int) : Option Int :=
  if -(1 <<< 63 : Nat) ≤ i && i < (1 <<< 63 : Nat) then some i else none

/-- An integer: decimal with an optional sign, or without a sign in another base. -/
def integer? : Text → Option Int
  | '0' :: 'x' :: t => do int64? (inBase 16 (← digits? Hexadecimal.isDigit t))
  | '0' :: 'o' :: t => do int64? (inBase 8 (← digits? (fun c => '0' ≤ c && c ≤ '7') t))
  | '0' :: 'b' :: t => do int64? (inBase 2 (← digits? (fun c => c = '0' || c = '1') t))
  | '+' :: t => do int64? (Decimal.value (← whole? t))
  | '-' :: t => do int64? (-Decimal.value (← whole? t))
  | t => do int64? (Decimal.value (← whole? t))

/-- Drops an optional sign. -/
def unsigned : Text → Text
  | '+' :: t => t
  | '-' :: t => t
  | t => t

/-- The exponent behind its letter, or zero where nothing is left. -/
def exponent? : Text → Option Int
  | [] => some 0
  | e :: t => do
    let ds ← digits? Char.isDigit (unsigned t)
    if e = 'e' || e = 'E' then
      some (if t.head? = some '-' then -Decimal.value ds else Decimal.value ds)
    else none

/-- Does `m` times the `e`-th power of ten round to infinity? The limit lies halfway between the
largest float and the power of two behind it. -/
def roundsToInfinity (m : Nat) (e : Int) : Bool :=
  let limit : Nat := (1 <<< 1024) - (1 <<< 970)
  if m = 0 then false
  else if 400 < e + (Nat.log2 m / 4 : Nat) then true
  else if 0 ≤ e then limit ≤ m * Nat.pow 10 e.toNat
  else if 400 < Nat.log2 m + 1 then limit * Nat.pow 10 (-e).toNat ≤ m
  else false

/-- The digits with the exponent of the last one, when it is a float with a point or an
exponent. -/
def decimal? (t : Text) : Option (Text × Int) := do
  let isPart (c : Char) : Bool := c.isDigit || c = '_'
  let whole ← whole? (t.takeWhile isPart)
  match t.dropWhile isPart with
  | [] => none
  | '.' :: rest => do
    let fraction ← digits? Char.isDigit (rest.takeWhile isPart)
    let e ← exponent? (rest.dropWhile isPart)
    return (whole ++ fraction, e - fraction.length)
  | rest => return (whole, ← exponent? rest)

/-- Is it a float? -/
def isFloat (t : Text) : Bool :=
  unsigned t = "inf".toList || unsigned t = "nan".toList ||
    (decimal? (unsigned t)).any fun (digits, e) =>
      t.head? = some '-' || !roundsToInfinity (Decimal.value digits) e

end Number

/-- The value of a word. -/
def Value.ofWord? (t : Text) : Option Value :=
  if t = "true".toList then some (.boolean true)
  else if t = "false".toList then some (.boolean false)
  else if Moment.isMoment t then some (.moment t)
  else if Number.isFloat t then some (.float t)
  else (Number.integer? t).map .integer

end Prose.Toml
