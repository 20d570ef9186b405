import Prose.Proofs.Parse.Shape
import Prose.Proofs.Text.Joined
import Prose.Tree.Layout

/-!
# Layouts of parsed texts

A layout puts spaces and line feeds between the texts of the leaves (`filter_layout`), and line
feeds between paragraphs only (`IsParagraph.mem_layout`). No leaf of a parsed text is a blank, so
both can be taken apart again: without its spaces and line feeds the layout is the text of the
leaves, and cut at its line feeds it is the layouts of the paragraphs
(`filter_layout_and_splitOn_document`).
-/

namespace Prose

open Text

namespace Node

/-- Is the character none of those that a layout adds? -/
def isKept (c : Char) : Bool :=
  c ≠ ' ' ∧ c ≠ '\n'

/-- A layout adds spaces and line feeds only. -/
theorem filter_layout (n : Node) : n.layout.filter isKept = n.render.filter isKept := by
  induction n using Node.induction with
  | leaf l => rfl
  | composite level cs ih =>
    have hJoin {sep : Text} (hSep : ∀ c ∈ sep, isKept c = false) :
        (join sep (cs.map layout)).filter isKept = (composite level cs).render.filter isKept := by
      rw [filter_join hSep, List.flatMap_map, render_composite, List.filter_flatMap]
      exact List.flatMap_congr ih
    cases level with
    | document =>
      rw [layout_document]
      exact hJoin (by simp [isKept])
    | paragraph =>
      rw [layout_paragraph]
      exact hJoin (by simp [isKept])
    | sentence =>
      rw [layout_sentence]
      exact hJoin (by simp [isKept])
    | lexeme => rfl
    | word => rfl

/-! ### Lines -/

section

variable {n : Node} {c : Char}

theorem mem_join_layout {cs : List Node} (h : ∀ n ∈ cs, c ∈ n.layout → c = ' ' ∨ c ∈ n.render)
    (hc : c ∈ join [' '] (cs.map layout)) : c = ' ' ∨ c ∈ cs.flatMap render := by
  rcases mem_join hc with hc | ⟨part, hPart, hc⟩
  · exact .inl (List.mem_singleton.1 hc)
  · obtain ⟨n, hn, rfl⟩ := List.mem_map.1 hPart
    exact (h n hn hc).imp_right fun hc => List.mem_flatMap.2 ⟨n, hn, hc⟩

theorem IsLexeme.layout_eq_render (h : IsLexeme n) : n.layout = n.render := by
  obtain @⟨words, mark, -⟩ := h
  rfl

theorem IsSentence.mem_layout (h : IsSentence n) (hc : c ∈ n.layout) : c = ' ' ∨ c ∈ n.render := by
  obtain @⟨lexemes, -, hLexemes⟩ := h
  rw [layout_sentence] at hc
  rw [render_composite]
  refine mem_join_layout (fun l hl hc => .inr ?_) hc
  rwa [← (hLexemes l hl).layout_eq_render]

/-- The layout of a paragraph has no other separators than spaces. -/
theorem IsParagraph.mem_layout (h : IsParagraph n) (hc : c ∈ n.layout) :
    c = ' ' ∨ c ∈ n.render := by
  obtain @⟨sentences, -, hSentences⟩ := h
  rw [layout_paragraph] at hc
  rw [render_composite]
  exact mem_join_layout (fun s hs hc => (hSentences s hs).mem_layout hc) hc

theorem IsDocument.not_mem_layout (h : IsDocument n) (hLeaves : '\n' ∉ n.render) :
    ∀ p ∈ n.children, '\n' ∉ p.layout := by
  obtain @⟨paragraphs, hParagraphs⟩ := h
  intro p hp hFeed
  rcases (hParagraphs p hp).mem_layout hFeed with hSpace | hFeed
  · cases hSpace
  · rw [render_composite] at hLeaves
    exact hLeaves (List.mem_flatMap.2 ⟨p, hp, hFeed⟩)

/-- The lines of a document are its paragraphs, but without paragraphs there is one empty line. -/
theorem IsDocument.splitOn_layout_iff (h : IsDocument n) (hLeaves : '\n' ∉ n.render) :
    n.layout.splitOn '\n' = n.children.map layout ↔ n.children ≠ [] := by
  have hLines := h.not_mem_layout hLeaves
  obtain @⟨paragraphs, -⟩ := h
  rw [layout_document, children]
  constructor
  · rintro hSplit rfl
    cases hSplit
  · intro hNe
    refine List.splitOn_intercalate '\n' ?_ (by simpa using hNe)
    rwa [List.forall_mem_map]

end

end Node

namespace Parse

open Node (isKept)

theorem isKept_of_mem_render_document (delimiter : Pattern) (t : Text) :
    ∀ c ∈ (document delimiter t).render, isKept c := by
  intro c hc
  obtain ⟨l, hl, rfl⟩ := Node.mem_render.1 hc
  have hBlank : isBlank l.symbol = false := isBlank_of_mem_leaves_document delimiter t l hl
  refine decide_eq_true ⟨?_, ?_⟩
  · intro hSpace
    rw [hSpace] at hBlank
    cases hBlank
  · intro hFeed
    rw [hFeed] at hBlank
    cases hBlank

/-- Without the spaces and the line feeds, the layout of a parsed text is the text of its leaves.
Its lines are the layouts of the paragraphs in their order, unless there is no paragraph. -/
theorem filter_layout_and_splitOn_document (delimiter : Pattern) (t : Text) :
    let d := document delimiter t
    d.layout.filter (fun c => c ≠ ' ' ∧ c ≠ '\n') = d.render ∧
      (d.layout.splitOn '\n' = d.children.map Node.layout ↔ d.children ≠ []) := by
  intro d
  have hKept : ∀ c ∈ d.render, isKept c := isKept_of_mem_render_document delimiter t
  have hFeed : '\n' ∉ d.render := fun h => by simpa [isKept] using hKept '\n' h
  refine ⟨(Node.filter_layout d).trans (List.filter_eq_self.2 hKept), ?_⟩
  exact (isDocument_document delimiter t).splitOn_layout_iff hFeed

end Parse

end Prose
