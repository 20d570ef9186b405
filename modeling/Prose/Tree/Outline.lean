import Prose.Tree.Node

/-!
# Outlines

An outline is a tree of labels. The outline of a text tree has one label for every node down to a
given depth, and it is drawn with one line for each label, in preorder.
-/

namespace Prose

inductive Outline
  | item (label : Text) (parts : List Outline)

namespace Outline

/-- Puts `first` before the first line and `others` before the following ones. -/
def indent (first others : Text) : List Text → List Text
  | [] => []
  | line :: lines => (first ++ line) :: lines.map (others ++ ·)

mutual

/-- The drawn lines of an outline. -/
def lines : Outline → List Text
  | .item label parts => label :: linesAll parts

/-- The drawn lines of the parts of an item; the branch of the last part ends there. -/
def linesAll : List Outline → List Text
  | [] => []
  | part :: parts =>
    (if parts.isEmpty then indent "└── ".toList "    ".toList (lines part)
      else indent "├── ".toList "│   ".toList (lines part)) ++ linesAll parts

end

/-- The drawing; every line is ended. -/
def text (o : Outline) : Text :=
  o.lines.flatMap (· ++ ['\n'])

end Outline

namespace Node

/-- A leaf is labelled by its character, any other node by its child count and its whole text. -/
def label (n : Node) : Text :=
  match n with
  | .leaf l => l.kind.name ++ ' ' :: Quoted.char l.symbol
  | .composite level cs =>
    level.name ++ " (".toList ++ Decimal.ofNat cs.length ++ ") ".toList ++ Quoted.text (render n)

mutual

/-- The outline down to `depth` levels below the node, or of the whole tree. -/
def outline (depth : Option Nat) : Node → Outline
  | .leaf l => .item (label (.leaf l)) []
  | .composite level cs =>
    .item (label (.composite level cs))
      (if depth = some 0 then [] else outlineAll (depth.map (· - 1)) cs)

def outlineAll (depth : Option Nat) : List Node → List Outline
  | [] => []
  | c :: cs => outline depth c :: outlineAll depth cs

end

theorem outlineAll_eq_map (depth : Option Nat) (cs : List Node) :
    outlineAll depth cs = cs.map (outline depth) := by
  induction cs with
  | nil => rfl
  | cons c cs ih => simp [outlineAll, ih]

end Node

end Prose
