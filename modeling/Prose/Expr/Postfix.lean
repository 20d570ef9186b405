import Prose.Expr.Token

/-!
# Postfix order

An infix token list is put into postfix order with a stack of waiting operators: an operand goes
out at once, a binary operator first sends out the waiting operators of its own or a higher rate
down to the nearest open bracket, and a complement waits without sending anything out. Operators of
equal rate therefore group to the left. Brackets never go out.
-/

namespace Prose.Expr

/-- An expression in postfix order. -/
structure Postfix where
  tokens : List Token
  deriving DecidableEq, Repr

namespace Postfix

/-- The waiting operators above the nearest open bracket, and those below it. -/
def popToOpen : List Operator → Option (List Operator × List Operator)
  | [] => none
  | .openBracket :: stack => some ([], stack)
  | op :: stack => (popToOpen stack).map fun (popped, rest) => (op :: popped, rest)

/-- Does the waiting operator `top` go out before a binary operator `op` starts to wait? -/
def yields (op : BinaryOp) (top : Operator) : Bool :=
  top ≠ .openBracket && op.rate ≤ top.rate

/-- At the end all waiting operators go out; an open bracket among them has no partner. -/
def flush : List Operator → Except Error (List Token)
  | [] => .ok []
  | .openBracket :: _ => .error (.malformed .unmatchedOpen)
  | op :: stack => return .operator op :: (← flush stack)

/-- What goes out while the tokens are read with the operators in `stack` waiting. -/
def convert (stack : List Operator) : List Token → Except Error (List Token)
  | [] => flush stack
  | .operand value :: rest => return .operand value :: (← convert stack rest)
  | .operator .openBracket :: rest => convert (.openBracket :: stack) rest
  | .operator .closeBracket :: rest =>
    match popToOpen stack with
    | none => .error (.malformed .unmatchedClose)
    | some (popped, stack) => return popped.map .operator ++ (← convert stack rest)
  | .operator .complement :: rest => convert (.complement :: stack) rest
  | .operator (.binary op) :: rest => do
    let out ← convert (.binary op :: stack.dropWhile (yields op)) rest
    return (stack.takeWhile (yields op)).map .operator ++ out

/-- The postfix order of an infix token list. -/
def ofTokens (tokens : List Token) : Except Error Postfix :=
  if tokens.isEmpty then .error (.malformed .emptyExpression)
  else Postfix.mk <$> convert [] tokens

/-- The postfix order of an infix text. -/
def ofInfix (t : Text) : Except Error Postfix := do
  ofTokens (← Token.ofText t)

/-- The tokens with one space between neighbours. -/
def text (e : Postfix) : Text :=
  Text.join [' '] (e.tokens.map Token.text)

/-- One part of a written postfix expression. A numeral may carry a sign; brackets are refused. -/
def token (part : Text) : Except Error Token :=
  match Decimal.int32? part with
  | some value => .ok (.operand value)
  | none => do
    let op ← Operator.ofSymbol part
    if op.isBracket then .error (.malformed .bracketInPostfix) else .ok (.operator op)

/-- Reads the parts between white space. -/
def ofText (t : Text) : Except Error Postfix :=
  Postfix.mk <$> (Text.fields isSpace t).mapM token

end Postfix

end Prose.Expr
