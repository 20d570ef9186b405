import Prose.Expr.Error
import Prose.Tree.Node

/-!
# Failures

Every way in which a command can fail, with its message and its exit code. Failures of the tree
contract are faults of the program itself; malformed expressions are faults of the data.
-/

namespace Prose

inductive Failure
  | tree (error : Node.Error)
  | expressionSyntax (detail : Text)
  | unknownOperator (symbol : Text)
  | missingInput (detail : Text)
  | config (detail : Text)
  | operationFailed (context source : Text)
  | usage (detail : Text)
  deriving DecidableEq, Repr

namespace Failure

def ofExpr : Expr.Error → Failure
  | .malformed defect => .expressionSyntax defect.message
  | .unknownOperator symbol => .unknownOperator symbol

def message : Failure → Text
  | .tree error => error.message
  | .expressionSyntax detail => "expression syntax error: ".toList ++ detail
  | .unknownOperator symbol => "unknown operator: ".toList ++ symbol
  | .missingInput detail => "missing input: ".toList ++ detail
  | .config detail => "config error: ".toList ++ detail
  | .operationFailed context _ => "operation failed: ".toList ++ context
  | .usage detail => detail

/-- The exit codes of `sysexits`: usage, data, input, software, input and output, configuration. -/
def exitCode : Failure → Nat
  | .usage _ => 64
  | .expressionSyntax _ => 65
  | .unknownOperator _ => 65
  | .missingInput _ => 66
  | .tree _ => 70
  | .operationFailed _ _ => 74
  | .config _ => 78

/-- Faults of the tree contract; there is no answer for failures outside trees and expressions. -/
def isStructural? : Failure → Option Bool
  | .tree _ => some true
  | .expressionSyntax _ => some false
  | .unknownOperator _ => some false
  | _ => none

end Failure

end Prose
