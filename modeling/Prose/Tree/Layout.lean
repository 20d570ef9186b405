import Prose.Tree.Node

/-!
# Layout

The reading form of a tree: paragraphs on lines of their own, one space between sentences and
between lexemes, and everything below a lexeme without separators.
-/

namespace Prose.Node

mutual

def layout : Node → Text
  | .leaf l => [l.symbol]
  | .composite .document cs => Text.join ['\n'] (layoutAll cs)
  | .composite .paragraph cs => Text.join [' '] (layoutAll cs)
  | .composite .sentence cs => Text.join [' '] (layoutAll cs)
  | .composite .lexeme cs => renderAll cs
  | .composite .word cs => renderAll cs

def layoutAll : List Node → List Text
  | [] => []
  | c :: cs => layout c :: layoutAll cs

end

theorem layoutAll_eq_map (cs : List Node) : layoutAll cs = cs.map layout := by
  induction cs with
  | nil => rfl
  | cons c cs ih => simp [layoutAll, ih]

theorem layout_document (cs : List Node) :
    (composite .document cs).layout = Text.join ['\n'] (cs.map layout) := by
  rw [layout, layoutAll_eq_map]

theorem layout_paragraph (cs : List Node) :
    (composite .paragraph cs).layout = Text.join [' '] (cs.map layout) := by
  rw [layout, layoutAll_eq_map]

theorem layout_sentence (cs : List Node) :
    (composite .sentence cs).layout = Text.join [' '] (cs.map layout) := by
  rw [layout, layoutAll_eq_map]

end Prose.Node
