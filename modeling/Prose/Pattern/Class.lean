import Prose.Pattern.Basic
import Prose.Text.Property.Alphanumeric
import Prose.Text.Property.CaseFolding
import Prose.Text.Property.DecimalDigit
import Prose.Text.Property.WordForming

/-!
# Character classes of patterns

The named classes, the closing of a class under case, and the assertions about the two characters at
a place. A class is a predicate on characters.
-/

namespace Prose.Pattern

abbrev Class := Char → Bool

/-- The switches of a pattern. -/
structure Flags where
  ignoreCase : Bool
  multiLine : Bool
  dotAll : Bool
  swapGreed : Bool
  unicode : Bool
  crlf : Bool
  verbose : Bool

/-- All switches are off at first, but Unicode classes are on. -/
def Flags.initial : Flags :=
  ⟨false, false, false, false, true, false, false⟩

namespace Class

def single (c : Char) : Class :=
  (· = c)

def range (first last : Char) : Class :=
  fun c => first ≤ c && c ≤ last

def anyOf (chars : Text) : Class :=
  (chars.contains ·)

def union (p q : Class) : Class :=
  fun c => p c || q c

def negate (p : Class) : Class :=
  fun c => !p c

def none : Class :=
  fun _ => false

/-- All characters that differ from `c` in case only, `c` included. -/
def caseVariants (c : Char) : Text :=
  let folded := Property.caseFolding.apply c
  c :: folded :: Property.caseFolding.preimages folded

/-- The class with all case variants of its members, where the switches ask for it. -/
def closeCase (flags : Flags) (p : Class) : Class :=
  if flags.ignoreCase then fun c =>
    (caseVariants c).any fun d => (flags.unicode || (c.toNat < 128 && d.toNat < 128)) && p d
  else p

/-- Decimal digits, of all scripts or of ASCII. -/
def digit (unicode : Bool) : Class :=
  if unicode then Property.decimalDigit.contains else Char.isDigit

def space (unicode : Bool) : Class :=
  if unicode then isSpace else fun c => c.toNat < 128 && isSpace c

def word (unicode : Bool) : Class :=
  if unicode then Property.wordForming.contains else isWordChar

/-- The ASCII classes that are written between colons. -/
def ascii? (name : Text) : Option Class :=
  match String.ofList name with
  | "alnum" => some Char.isAlphanum
  | "alpha" => some Char.isAlpha
  | "ascii" => some (·.toNat < 128)
  | "blank" => some (anyOf [' ', '\t'])
  | "cntrl" => some fun c => c.toNat < 32 || c.toNat = 127
  | "digit" => some Char.isDigit
  | "graph" => some (range '!' '~')
  | "lower" => some (range 'a' 'z')
  | "print" => some (range ' ' '~')
  | "punct" => some fun c => range '!' '~' c && !c.isAlphanum
  | "space" => some (space false)
  | "upper" => some (range 'A' 'Z')
  | "word" => some isWordChar
  | "xdigit" => some fun c => c.isDigit || range 'a' 'f' c || range 'A' 'F' c
  | _ => Option.none

end Class

/-- An assertion about the characters before and after a place. -/
abbrev Assertion := Option Char → Option Char → Bool

namespace Assertion

def textStart : Assertion :=
  fun before _ => before.isNone

def textEnd : Assertion :=
  fun _ after => after.isNone

/-- The start of a line. With two-character line ends there is none between the two. -/
def lineStart (crlf : Bool) : Assertion := fun before after =>
  before.isNone || before = some '\n' || (crlf && before = some '\r' && after ≠ some '\n')

def lineEnd (crlf : Bool) : Assertion := fun before after =>
  after.isNone || (after = some '\n' && !(crlf && before = some '\r'))
    || (crlf && after = some '\r')

def wordStart (unicode : Bool) : Assertion :=
  fun before after => !before.any (Class.word unicode) && after.any (Class.word unicode)

def wordEnd (unicode : Bool) : Assertion :=
  fun before after => before.any (Class.word unicode) && !after.any (Class.word unicode)

def wordBoundary (unicode : Bool) : Assertion :=
  fun before after => before.any (Class.word unicode) != after.any (Class.word unicode)

def noWordBefore (unicode : Bool) : Assertion :=
  fun before _ => !before.any (Class.word unicode)

def noWordAfter (unicode : Bool) : Assertion :=
  fun _ after => !after.any (Class.word unicode)

def negate (a : Assertion) : Assertion :=
  fun before after => !a before after

end Assertion

end Prose.Pattern
