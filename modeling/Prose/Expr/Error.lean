import Prose.Expr.Operator
import Prose.Text.Decimal

/-!
# Faults of expressions

Everything that can be wrong with an expression, in infix or in postfix order, with the one place
where each fault is put into words.
-/

namespace Prose.Expr

/-- A fault in the arrangement of operands, operators and brackets. -/
inductive Defect
  | stackUnderflow
  | valuesLeft (count : Nat)
  | emptyExpression
  | unmatchedOpen
  | unmatchedClose
  | operandOutOfRange (literal : Text)
  | bracketInPostfix
  | notBinary (op : Operator)
  | notUnary (op : Operator)
  deriving DecidableEq, Repr

/-- Either a defect or a symbol that is no operator. -/
inductive Error
  | malformed (defect : Defect)
  | unknownOperator (symbol : Text)
  deriving DecidableEq, Repr

def Defect.message : Defect → Text
  | .stackUnderflow => "stack underflow".toList
  | .valuesLeft count => Decimal.ofNat count ++ " values left on the stack".toList
  | .emptyExpression => "empty expression".toList
  | .unmatchedOpen => "unmatched '('".toList
  | .unmatchedClose => "unmatched ')'".toList
  | .operandOutOfRange literal => "operand out of range: ".toList ++ literal
  | .bracketInPostfix => "brackets are not allowed in postfix".toList
  | .notBinary op => '\'' :: op.symbol ++ "' is not a binary operator".toList
  | .notUnary op => '\'' :: op.symbol ++ "' is not a unary operator".toList

namespace Operator

/-- The operator that is written `t`, or the fault that there is none. -/
def ofSymbol (t : Text) : Except Error Operator :=
  match ofSymbol? t with
  | some op => .ok op
  | none => .error (.unknownOperator t)

def applyBinary (op : Operator) (left right : Int32) : Except Error Int32 :=
  match op with
  | .binary b => .ok (b.eval left right)
  | _ => .error (.malformed (.notBinary op))

def applyUnary (op : Operator) (operand : Int32) : Except Error Int32 :=
  match op with
  | .complement => .ok (~~~operand)
  | _ => .error (.malformed (.notUnary op))

end Operator

end Prose.Expr
