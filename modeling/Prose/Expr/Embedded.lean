import Prose.Expr.Machine

/-!
# Embedded expressions

Expressions inside a text are replaced by their values. The text is cut into its maximal runs of
expression characters, and each run has at most one candidate: from its first character that can
start an expression to its last one that can end it. A candidate next to an operator is a part of
something malformed and stays, unpartnered brackets at its ends are left outside, and what is left
must hold an operator, touch no word and have a value.
-/

namespace Prose.Expr.Embedded

/-- The characters of the operators, brackets apart. -/
def isOperatorChar (c : Char) : Bool :=
  c ∈ ['+', '-', '*', '|', '^', '&', '~', '<', '>']

/-- The characters of expressions. -/
def isExprChar (c : Char) : Bool :=
  c.isDigit || isOperatorChar c || c = '(' || c = ')'

/-- Can `c` be the first character of an expression? -/
def starts (c : Char) : Bool :=
  c.isDigit || c = '~' || c = '('

/-- Can `c` be the last character of an expression? -/
def ends (c : Char) : Bool :=
  c.isDigit || c = ')'

/-- A part of a text with what stands on its two sides. -/
structure Cut where
  left : Text
  middle : Text
  right : Text
  deriving DecidableEq, Repr

/-- The candidate of a run. It is too short when its middle has fewer than two characters. -/
def candidate (run : Text) : Cut :=
  let middle := Text.dropEnd (!ends ·) (run.dropWhile (!starts ·))
  { left := run.takeWhile (!starts ·)
    middle
    right := (run.dropWhile (!starts ·)).drop middle.length }

/-- Leaves surplus brackets at one end outside: closing ones at the right end when there are more
closing than opening brackets, opening ones at the left end when there are more opening ones. -/
def balance (t : Text) : Cut :=
  let opening := t.count '('
  let closing := t.count ')'
  let surplusLeft := ((t.takeWhile (· = '(')).take (opening - closing)).length
  let surplusRight := ((t.reverse.takeWhile (· = ')')).take (closing - opening)).length
  { left := t.take surplusLeft
    middle := (t.drop surplusLeft).take (t.length - surplusLeft - surplusRight)
    right := t.drop (t.length - surplusRight) }

/-- The run with its candidate replaced, or as it is. `before` and `after` are the characters of
the text on the two sides of the run. -/
def rewriteRun (before : Option Char) (run : Text) (after : Option Char) : Text :=
  let outer := candidate run
  let inner := balance outer.middle
  let before := outer.left.getLast?.or before
  let after := outer.right.head?.or after
  if outer.middle.length < 2 || before.any isOperatorChar || after.any isOperatorChar then run
  else if !inner.middle.any isOperatorChar
      || (inner.left.getLast?.or before).any isWordChar
      || (inner.right.head?.or after).any isWordChar then run
  else
    match evalInfix inner.middle with
    | .ok value =>
      outer.left ++ inner.left ++ Decimal.ofInt value.toInt ++ inner.right ++ outer.right
    | .error _ => run

/-- Rewrites the runs of a text that follows the character `before`. -/
def rewrite (before : Option Char) : Text → Text
  | [] => []
  | c :: rest =>
    if isExprChar c then
      let run := c :: rest.takeWhile isExprChar
      let tail := rest.dropWhile isExprChar
      rewriteRun before run tail.head? ++ rewrite run.getLast? tail
    else c :: rewrite (some c) rest
termination_by t => t.length
decreasing_by
  · have h := (List.dropWhile_sublist isExprChar (l := rest)).length_le
    simp only [List.length_cons]
    omega
  · simp

/-- The text with every complete expression replaced by its value. -/
def substitute (t : Text) : Text :=
  rewrite none t

end Prose.Expr.Embedded
