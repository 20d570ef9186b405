import Prose.Tree.Node

/-!
# A workbench for trees

Nodes under names, by value: what is added to a node is the present state of the child, and later
steps under the child's name do not reach it. A step makes one node (`result`) and puts it under one
name (`Step.target`), or it is refused.
-/

namespace Prose

/-- The named nodes. -/
abbrev Workbench := List (Text × Node)

namespace Workbench

/-- One act of building. -/
inductive Step
  | compose (target : Text) (level : Level)
  | letter (target : Text) (c : Char)
  | sign (target : Text) (c : Char)
  | classify (target : Text) (c : Char)
  | add (target child : Text)
  | get (target source : Text) (index : Nat)
  deriving DecidableEq, Repr

/-- Puts a node under a name. -/
def put (bench : Workbench) (name : Text) (node : Node) : Workbench :=
  (name, node) :: bench.filter (·.1 ≠ name)

/-- The node under a name; a name that was never used stands for an empty document. -/
def node (bench : Workbench) (name : Text) : Node :=
  (bench.lookup name).getD (.composite .document [])

/-- The name under which a step puts its result. -/
def Step.target : Step → Text
  | .compose target _ => target
  | .letter target _ => target
  | .sign target _ => target
  | .classify target _ => target
  | .add target _ => target
  | .get target _ _ => target

/-- The node that a step puts under its target. -/
def result (bench : Workbench) : Step → Except Node.Error Node
  | .compose _ level => .ok (.composite level [])
  | .letter _ c => Node.letter c
  | .sign _ c => .ok (.sign c)
  | .classify _ c => .ok (.leaf (.classify c))
  | .add target child => (bench.node target).add (bench.node child)
  | .get _ source index => (bench.node source).get index

/-- The workbench after a step. A refused step has no workbench, so nothing is changed by it. -/
def apply (bench : Workbench) (step : Step) : Except Node.Error Workbench :=
  bench.put step.target <$> bench.result step

/-- The workbench after a list of steps, where refused steps change nothing. -/
def run (bench : Workbench) : List Step → Workbench
  | [] => bench
  | step :: steps =>
    match bench.apply step with
    | .ok bench => run bench steps
    | .error _ => run bench steps

end Workbench

end Prose
