import Prose.Expr.Error

/-!
# Tokens

Infix texts are cut into operands and operators from left to right. Blanks between tokens are
skipped, a maximal run of digits is one operand, and a shift is a doubled bracket `<<` or `>>`.
-/

namespace Prose.Expr

inductive Token
  | operand (value : Int32)
  | operator (op : Operator)
  deriving DecidableEq, Repr

namespace Token

/-- The written form of a token. -/
def text : Token → Text
  | .operand value => Decimal.ofInt value.toInt
  | .operator op => op.symbol

/-- The value of a run of digits, when it fits into 31 bits. -/
def literal (digits : Text) : Except Error Int32 :=
  if Decimal.value digits < 1 <<< 31 then .ok (Int32.ofNat (Decimal.value digits))
  else .error (.malformed (.operandOutOfRange digits))

/-- The tokens of an infix text. -/
def ofText : Text → Except Error (List Token)
  | [] => .ok []
  | c :: rest =>
    if isBlank c then ofText rest
    else if c.isDigit then do
      let value ← literal (c :: rest.takeWhile Char.isDigit)
      return .operand value :: (← ofText (rest.dropWhile Char.isDigit))
    else if c = '<' || c = '>' then
      match rest with
      | [] => .error (.unknownOperator [c])
      | d :: rest =>
        if d = c then do
          let op ← Operator.ofSymbol [c, d]
          return .operator op :: (← ofText rest)
        else .error (.unknownOperator [c])
    else do
      let op ← Operator.ofSymbol [c]
      return .operator op :: (← ofText rest)
termination_by t => t.length
decreasing_by
  all_goals simp only [List.length_cons]
  all_goals try omega
  have h := (List.dropWhile_sublist Char.isDigit (l := rest)).length_le
  omega

end Token

end Prose.Expr
