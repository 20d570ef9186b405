import Mathlib
import Prose.Tree.Node

/-!
# Leaves

The leaves of a tree from left to right, and those among them that stand below a word. What a tree
renders and how often it holds a character can be read off its leaves.
-/

namespace Prose

namespace Leaf

/-- The character of a letter. -/
def letter? : Leaf → Option Char
  | .letter c => some c
  | .sign _ => none

theorem letter?_classify (c : Char) :
    (classify c).letter? = if isWordChar c then some c else none := by
  unfold classify
  split <;> rfl

theorem map_symbol_map_classify (t : Text) : (t.map classify).map symbol = t := by
  rw [List.map_map, Function.comp_def]
  simp only [symbol_classify, List.map_id']

end Leaf

namespace Node

mutual

/-- All leaves in order. -/
def leaves : Node → List Leaf
  | .leaf l => [l]
  | .composite _ cs => leavesAll cs

def leavesAll : List Node → List Leaf
  | [] => []
  | c :: cs => leaves c ++ leavesAll cs

end

mutual

/-- The leaves below words, in order. -/
def wordLeaves : Node → List Leaf
  | .leaf _ => []
  | .composite level cs => if level = .word then leavesAll cs else wordLeavesAll cs

def wordLeavesAll : List Node → List Leaf
  | [] => []
  | c :: cs => wordLeaves c ++ wordLeavesAll cs

end

theorem leavesAll_eq_flatMap (cs : List Node) : leavesAll cs = cs.flatMap leaves := by
  induction cs with
  | nil => rfl
  | cons c cs ih => rw [leavesAll, ih, List.flatMap_cons]

theorem wordLeavesAll_eq_flatMap (cs : List Node) : wordLeavesAll cs = cs.flatMap wordLeaves := by
  induction cs with
  | nil => rfl
  | cons c cs ih => rw [wordLeavesAll, ih, List.flatMap_cons]

theorem leaves_composite (level : Level) (cs : List Node) :
    (composite level cs).leaves = cs.flatMap leaves :=
  leavesAll_eq_flatMap cs

theorem wordLeaves_composite {level : Level} (h : level ≠ .word) (cs : List Node) :
    (composite level cs).wordLeaves = cs.flatMap wordLeaves := by
  rw [wordLeaves, if_neg h, wordLeavesAll_eq_flatMap]

theorem wordLeaves_word (cs : List Node) :
    (composite .word cs).wordLeaves = (composite .word cs).leaves := by
  rw [wordLeaves, if_pos rfl, leaves]

theorem countAll_eq_sum (symbol : Char) (cs : List Node) :
    countAll symbol cs = (cs.map (count symbol)).sum := by
  induction cs with
  | nil => rfl
  | cons c cs ih => rw [countAll, ih, List.map_cons, List.sum_cons]

theorem count_composite (symbol : Char) (level : Level) (cs : List Node) :
    (composite level cs).count symbol = (cs.map (count symbol)).sum :=
  countAll_eq_sum symbol cs

theorem render_composite (level : Level) (cs : List Node) :
    (composite level cs).render = cs.flatMap render := by
  rw [render, renderAll_eq_flatMap]

/-- A tree renders its leaves. -/
theorem render_eq_map_leaves (n : Node) : n.render = n.leaves.map Leaf.symbol := by
  induction n using Node.induction with
  | leaf l => rfl
  | composite level cs ih =>
    rw [render_composite, leaves_composite, List.map_flatMap]
    exact List.flatMap_congr ih

theorem mem_render {n : Node} {c : Char} : c ∈ n.render ↔ ∃ l ∈ n.leaves, l.symbol = c := by
  rw [render_eq_map_leaves, List.mem_map]

/-- A tree holds a character as often as it renders it. -/
theorem count_eq_count_render (symbol : Char) (n : Node) :
    n.count symbol = n.render.count symbol := by
  induction n using Node.induction with
  | leaf l =>
    rw [count, render, List.count_singleton]
    simp only [beq_iff_eq]
  | composite level cs ih =>
    rw [count_composite, render_composite, List.count_flatMap]
    exact congrArg List.sum (List.map_congr_left ih)

/-- What a tree counts is what it renders. So two trees count every character alike exactly when
their texts are rearrangements of each other, as they are when the texts are equal, and over the
children of a node the texts follow one another and the counts add up. -/
theorem count_eq_count_render_and_perm_iff :
    (∀ (symbol : Char) (n : Node), n.count symbol = n.render.count symbol) ∧
    (∀ m n : Node, (∀ symbol, m.count symbol = n.count symbol) ↔ m.render.Perm n.render) ∧
    ∀ (level : Level) (cs : List Node), (composite level cs).render = (cs.map render).flatten ∧
      ∀ symbol, (composite level cs).count symbol = (cs.map (count symbol)).sum := by
  refine ⟨count_eq_count_render, fun m n => ?_, fun level cs => ⟨?_, fun symbol => ?_⟩⟩
  · rw [List.perm_iff_count]
    exact forall_congr' fun symbol => by rw [count_eq_count_render, count_eq_count_render]
  · rw [render_composite, List.flatMap_def]
  · exact count_composite symbol level cs

end Node

end Prose
