import Prose.Text.Decimal

/-!
# Dates and times of a TOML document

A moment is a date, a time of day, or both with an optional distance from universal time. Only its
form and its limits matter here, for no setting is a moment.
-/

namespace Prose.Toml.Moment

/-- A number of exactly `width` digits within limits. -/
def number? (width low high : Nat) (t : Text) : Option (Nat × Text) :=
  let digits := t.take width
  let n := Decimal.value digits
  if digits.length = width && digits.all Char.isDigit && low ≤ n && n ≤ high then
    some (n, t.drop width)
  else none

/-- The rest behind an expected character. -/
def behind? (c : Char) : Text → Option Text
  | [] => none
  | d :: rest => if d = c then some rest else none

def isLeap (year : Nat) : Bool :=
  year % 4 = 0 && (year % 100 ≠ 0 || year % 400 = 0)

def daysIn (year month : Nat) : Nat :=
  if month = 2 then (if isLeap year then 29 else 28)
  else if month = 4 || month = 6 || month = 9 || month = 11 then 30
  else 31

/-- The rest behind a date. -/
def date? (t : Text) : Option Text := do
  let (year, t) ← number? 4 0 9999 t
  let (month, t) ← number? 2 1 12 (← behind? '-' t)
  let (_, t) ← number? 2 1 (daysIn year month) (← behind? '-' t)
  return t

/-- The rest behind an optional fraction of a second; a lone point is no fraction. -/
def skipFraction : Text → Text
  | '.' :: d :: rest => if d.isDigit then rest.dropWhile Char.isDigit else '.' :: d :: rest
  | t => t

/-- The rest behind a time of day. A minute may have a leap second. -/
def time? (t : Text) : Option Text := do
  let (_, t) ← number? 2 0 23 t
  let (_, t) ← number? 2 0 59 (← behind? ':' t)
  let (_, t) ← number? 2 0 60 (← behind? ':' t)
  return skipFraction t

/-- Is it a distance from universal time, or nothing? -/
def isZone : Text → Bool
  | [] => true
  | ['Z'] => true
  | ['z'] => true
  | sign :: t =>
    (sign = '+' || sign = '-') &&
      (do let (_, t) ← number? 2 0 23 t
          let (_, t) ← number? 2 0 59 (← behind? ':' t)
          return t.isEmpty : Option Bool) = some true

def isDate (t : Text) : Bool :=
  date? t = some []

/-- Is it a time of day with an optional distance from universal time? -/
def isClock (t : Text) : Bool :=
  (time? t).any isZone

/-- Is it a date, a date and a time, or a time of day? -/
def isMoment (t : Text) : Bool :=
  match date? t with
  | some [] => true
  | some (c :: rest) => (c = 'T' || c = 't' || c = ' ') && isClock rest
  | none => time? t = some []

end Prose.Toml.Moment
