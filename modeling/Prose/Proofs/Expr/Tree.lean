import Prose.Expr.Postfix
import Prose.Proofs.Expr.Arithmetic

/-!
# Expression trees and their spellings

An expression is a tree over operands. `Tree.postorder` lists its tokens with every operator behind
its operands, and `Tree.value` is its value: each operator takes the exact value on integers, which
is reduced to 32 bits before the next one sees it.

`Spells e rate ts` says that the infix tokens `ts` spell the tree `e`, with brackets wherever the
rates demand them and anywhere else at will.
-/

namespace Prose.Expr

/-- An expression. -/
inductive Tree
  | literal (value : Int32)
  | complement (operand : Tree)
  | binary (op : BinaryOp) (left right : Tree)
  deriving DecidableEq, Repr

namespace Tree

/-- The tokens of a tree, operators behind their operands. -/
def postorder : Tree → List Token
  | .literal v => [.operand v]
  | .complement e => e.postorder ++ [.operator .complement]
  | .binary op l r => l.postorder ++ r.postorder ++ [.operator (.binary op)]

/-- The value of a tree, reduced to 32 bits at every operator. -/
def value : Tree → Int32
  | .literal v => v
  | .complement e => Int32.ofInt (-e.value.toInt - 1)
  | .binary op l r => Int32.ofInt (op.exact l.value.toInt r.value.toInt)

def isLiteral : Tree → Bool
  | .literal _ => true
  | _ => false

end Tree

/-- `Spells e rate ts`: the tokens `ts` spell the tree `e`, and `rate` is the rate of the last
operator to be applied outside brackets, or the rate of brackets when there is none. -/
inductive Spells : Tree → Nat → List Token → Prop
  | literal (v : Int32) : Spells (.literal v) Operator.openBracket.rate [.operand v]
  | bracket {e : Tree} {rate : Nat} {ts : List Token} : Spells e rate ts →
      Spells e Operator.openBracket.rate
        (.operator .openBracket :: (ts ++ [.operator .closeBracket]))
  | complement {e : Tree} {rate : Nat} {ts : List Token} : Spells e rate ts →
      Operator.complement.rate ≤ rate →
      Spells (.complement e) Operator.complement.rate (.operator .complement :: ts)
  | binary {op : BinaryOp} {l r : Tree} {p q : Nat} {ts us : List Token} : Spells l p ts →
      Spells r q us → op.rate ≤ p → op.rate < q →
      Spells (.binary op l r) op.rate (ts ++ .operator (.binary op) :: us)

/-! ### Kinds of tokens -/

namespace Token

def isOperand : Token → Bool
  | .operand _ => true
  | .operator _ => false

def isBinary : Token → Bool
  | .operator (.binary _) => true
  | _ => false

def isBracket : Token → Bool
  | .operand _ => false
  | .operator op => op.isBracket

end Token

/-- The postorder of a tree has no brackets. -/
theorem Tree.isBracket_eq_false {t : Token} (e : Tree) (h : t ∈ e.postorder) :
    t.isBracket = false := by
  induction e with
  | literal v =>
    obtain rfl : t = .operand v := by simpa [postorder] using h
    rfl
  | complement e ih =>
    rcases List.mem_append.1 h with h | h
    · exact ih h
    · obtain rfl : t = .operator .complement := by simpa using h
      rfl
  | binary op l r ihLeft ihRight =>
    rcases List.mem_append.1 h with h | h
    · exact (List.mem_append.1 h).elim ihLeft ihRight
    · obtain rfl : t = .operator (.binary op) := by simpa using h
      rfl

theorem BinaryOp.rate_lt_complement (op : BinaryOp) : op.rate < Operator.complement.rate := by
  cases op <;> decide

end Prose.Expr
