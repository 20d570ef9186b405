import Prose.Toml.Quotation

/-!
# Written strings of a TOML document

The written form of a string is the plainest one that can hold it: between double marks without
escapes, between single marks, between three double marks without escapes, between three single
marks, and with escapes otherwise.
-/

namespace Prose.Toml.Written

/-- The four kinds of strings. -/
inductive Style
  | basic
  | literal
  | basicLines
  | literalLines
  deriving DecidableEq, Repr

/-- Controls that only an escape can give. -/
def needsEscape (c : Char) : Bool :=
  (c.toNat < 32 && c ≠ '\t' && c ≠ '\n') || c.toNat = 127

/-- The length of the longest row of `c`, behind `n` of them. -/
def longestRow (c : Char) (n : Nat) : Text → Nat
  | [] => n
  | d :: rest => if d = c then longestRow c (n + 1) rest else max n (longestRow c 0 rest)

/-- The style in which a text is written. -/
def Style.of (t : Text) : Style :=
  let escapes := t.any needsEscape
  let backslashes := t.any (· = '\\')
  let lines := t.any (· = '\n')
  if !escapes && !backslashes && longestRow '"' 0 t = 0 && !lines then .basic
  else if !escapes && longestRow '\'' 0 t = 0 && !lines then .literal
  else if !escapes && !backslashes && longestRow '"' 0 t ≤ 2 then .basicLines
  else if !escapes && longestRow '\'' 0 t ≤ 2 then .literalLines
  else if lines then .basicLines
  else .basic

/-- A character between double marks. -/
def escapeChar (lines : Bool) (c : Char) : Text :=
  if c = '\x08' then ['\\', 'b']
  else if c = '\t' then ['\\', 't']
  else if c = '\n' then if lines then ['\n'] else ['\\', 'n']
  else if c = '\x0c' then ['\\', 'f']
  else if c = '\r' then ['\\', 'r']
  else if c = '\\' then ['\\', '\\']
  else if needsEscape c then
    ['\\', 'u', '0', '0', Hexadecimal.ofDigit (c.toNat / 16), Hexadecimal.ofDigit (c.toNat % 16)]
  else [c]

/-- A text between double marks, behind `marks` marks of its own. On one line every mark is
escaped; on many lines two of them may stand in a row. -/
def escape (lines : Bool) (marks : Nat) : Text → Text
  | [] => []
  | c :: rest =>
    if c = '"' then
      if lines && marks < 2 then '"' :: escape lines (marks + 1) rest
      else '\\' :: '"' :: escape lines 0 rest
    else escapeChar lines c ++ escape lines 0 rest

/-- Three marks; a text with line ends starts on a line of its own. -/
def openLines (mark : Char) (t : Text) : Text :=
  if t.any (· = '\n') then [mark, mark, mark, '\n'] else [mark, mark, mark]

/-- The written form of a string. -/
def string (t : Text) : Text :=
  match Style.of t with
  | .basic => '"' :: escape false 0 t ++ ['"']
  | .literal => '\'' :: t ++ ['\'']
  | .basicLines => openLines '"' t ++ escape true 0 t ++ ['"', '"', '"']
  | .literalLines => openLines '\'' t ++ t ++ ['\'', '\'', '\'']

end Prose.Toml.Written
