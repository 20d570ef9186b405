import Prose.Text

/-!
# Operators

The operators of embedded expressions. Eight of them join two operands, `~` stands before one, and
the brackets group. Every operator has a symbol and a rate; a higher rate binds tighter.
-/

namespace Prose.Expr

/-- An operator between two operands. -/
inductive BinaryOp
  | add
  | sub
  | mul
  | or
  | xor
  | and
  | shiftLeft
  | shiftRight
  deriving DecidableEq, Repr

/-- A symbol of an expression other than an operand. -/
inductive Operator
  | binary (op : BinaryOp)
  | complement
  | openBracket
  | closeBracket
  deriving DecidableEq, Repr

namespace BinaryOp

def rate : BinaryOp → Nat
  | .add => 1
  | .sub => 2
  | .mul => 3
  | .or => 5
  | .xor => 6
  | .and => 7
  | .shiftLeft => 10
  | .shiftRight => 10

def symbol : BinaryOp → Text
  | .add => ['+']
  | .sub => ['-']
  | .mul => ['*']
  | .or => ['|']
  | .xor => ['^']
  | .and => ['&']
  | .shiftLeft => ['<', '<']
  | .shiftRight => ['>', '>']

/-- The value on 32-bit words: sums, differences and products wrap, and a shift is by the low five
bits of its right operand, to the right with copies of the sign. -/
def eval : BinaryOp → Int32 → Int32 → Int32
  | .add, l, r => l + r
  | .sub, l, r => l - r
  | .mul, l, r => l * r
  | .or, l, r => l ||| r
  | .xor, l, r => l ^^^ r
  | .and, l, r => l &&& r
  | .shiftLeft, l, r => l <<< r
  | .shiftRight, l, r => l >>> r

end BinaryOp

namespace Operator

/-- Brackets carry the highest rate; the conversion never compares with it. -/
def rate : Operator → Nat
  | .binary op => op.rate
  | .complement => 13
  | .openBracket => 14
  | .closeBracket => 14

def symbol : Operator → Text
  | .binary op => op.symbol
  | .complement => ['~']
  | .openBracket => ['(']
  | .closeBracket => [')']

def isUnary (op : Operator) : Bool :=
  op = .complement

def isBracket (op : Operator) : Bool :=
  op = .openBracket || op = .closeBracket

/-- All operators, by rate. -/
def all : List Operator :=
  [.binary .add, .binary .sub, .binary .mul, .binary .or, .binary .xor, .binary .and,
    .binary .shiftLeft, .binary .shiftRight, .complement, .openBracket, .closeBracket]

/-- The operator that is written `t`. -/
def ofSymbol? (t : Text) : Option Operator :=
  all.find? (·.symbol = t)

theorem mem_all (op : Operator) : op ∈ all := by
  cases op with
  | binary op => cases op <;> decide
  | complement => decide
  | openBracket => decide
  | closeBracket => decide

theorem ofSymbol?_symbol (op : Operator) : ofSymbol? op.symbol = some op := by
  cases op with
  | binary op => cases op <;> decide
  | complement => decide
  | openBracket => decide
  | closeBracket => decide

theorem symbol_of_ofSymbol? {t : Text} {op : Operator} (h : ofSymbol? t = some op) :
    op.symbol = t := by
  simpa using List.find?_some h

end Operator

end Prose.Expr
