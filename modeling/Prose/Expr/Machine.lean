import Prose.Expr.Postfix

/-!
# Evaluation

A stack machine for postfix order. An operand is pushed, a complement replaces the top, and any
other operator takes the right operand first and the left one second. In the end one value is left.
-/

namespace Prose.Expr

/-- The values computed so far, the latest first. -/
abbrev Stack := List Int32

namespace Stack

def push (value : Int32) (stack : Stack) : Stack :=
  value :: stack

def pop : Stack → Except Error (Int32 × Stack)
  | [] => .error (.malformed .stackUnderflow)
  | value :: stack => .ok (value, stack)

/-- The effect of one token. -/
def step (stack : Stack) : Token → Except Error Stack
  | .operand value => .ok (stack.push value)
  | .operator op => do
    if op.isUnary then
      let (operand, stack) ← pop stack
      return push (← op.applyUnary operand) stack
    else
      let (right, stack) ← pop stack
      let (left, stack) ← pop stack
      return push (← op.applyBinary left right) stack

/-- The value that is left, when it is the only one. -/
def result (stack : Stack) : Except Error Int32 := do
  let (value, stack) ← pop stack
  if stack.isEmpty then return value
  else .error (.malformed (.valuesLeft stack.length))

end Stack

/-- The value of a postfix expression. -/
def Postfix.eval (e : Postfix) : Except Error Int32 := do
  (← e.tokens.foldlM Stack.step []).result

/-- The value of an infix text. -/
def evalInfix (t : Text) : Except Error Int32 := do
  (← Postfix.ofInfix t).eval

end Prose.Expr
