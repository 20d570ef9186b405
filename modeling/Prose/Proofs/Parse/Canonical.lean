import Prose.Proofs.Parse.Sentence
import Prose.Proofs.Parse.Shape

/-!
# Canonical documents

A canonical document has one word in each lexeme, a terminal sign at the end of each sentence but
the last of its paragraph, and none before. Its layout marks all its levels: a sentence is cut into
its lexemes and a paragraph into its sentences at the spaces, the document into its paragraphs at
the line feeds. So parsing the layout gives the document again (`IsDocument.document_layout`).
-/

namespace Prose.Canonical

open Parse Text
open Node (IsWord composite layout layout_document layout_paragraph layout_sentence leaves_composite
  sign)

/-- Can a canonical word begin with `c`? -/
def opensWord (c : Char) : Bool :=
  isWordChar c || c = '('

/-- One word, and at most one sign behind it, which is no blank and could not belong to the word. -/
inductive IsLexeme : Node → Prop
  | mk {w : Node} {mark : Option Char} : IsWord opensWord w →
      (∀ c ∈ mark, isBlank c = false ∧ continuesWord c = false) →
      IsLexeme (.composite .lexeme (w :: mark.toList.map sign))

/-- Is the last leaf a sign that ends a sentence? -/
def endsTerminal (n : Node) : Bool :=
  n.leaves.getLast?.any fun l => l.kind = .sign && isTerminal l.symbol

/-- Lexemes of which only the last may end in a terminal sign. -/
inductive IsSentence : Node → Prop
  | mk {lexemes : List Node} {last : Node} :
      (∀ l ∈ lexemes, IsLexeme l ∧ endsTerminal l = false) → IsLexeme last →
      IsSentence (.composite .sentence (lexemes ++ [last]))

/-- Sentences of which all but the last end in a terminal sign. -/
inductive IsParagraph : Node → Prop
  | mk {sentences : List Node} {last : Node} :
      (∀ s ∈ sentences, IsSentence s ∧ endsTerminal s) → IsSentence last →
      IsParagraph (.composite .paragraph (sentences ++ [last]))

inductive IsDocument : Node → Prop
  | mk {paragraphs : List Node} : (∀ p ∈ paragraphs, IsParagraph p) →
      IsDocument (.composite .document paragraphs)

/-! ### Lexemes -/

theorem startsWord_of_opensWord {c : Char} (h : opensWord c) : startsWord c := by
  simp only [opensWord, startsWord, Bool.or_eq_true, decide_eq_true_eq] at h ⊢
  tauto

theorem startsLexeme_of_opensWord {c : Char} (h : opensWord c) : startsLexeme c := by
  simp only [opensWord, startsLexeme, Bool.or_eq_true, decide_eq_true_eq] at h ⊢
  tauto

/-- A word and the sign behind it, as they stand in the text of a canonical lexeme. -/
structure IsMarked (w : Text) (mark : Option Char) : Prop where
  opens : ∃ c ∈ w.head?, opensWord c
  continues : ∀ c ∈ w, continuesWord c
  stops : ∀ c ∈ mark, isBlank c = false ∧ continuesWord c = false

namespace IsMarked

variable {w : Text} {mark : Option Char}

theorem words_eq (h : IsMarked w mark) : words (w ++ mark.toList) = [w] := by
  obtain ⟨c, hc, hOpens⟩ := h.opens
  obtain ⟨t, rfl⟩ := List.head?_eq_some_iff.1 hc
  have hStops : ∀ d ∈ mark.toList.head?, continuesWord d = false := by
    intro d hd
    exact (h.stops d (Option.mem_toList.1 (List.mem_of_head? hd))).2
  rw [words_append (startsWord_of_opensWord hOpens) (List.forall_mem_cons.1 h.continues).2 hStops]
  cases mark with
  | none => rw [Option.toList_none, words]
  | some d =>
    have hNot : startsWord d = false := startsWord_eq_false (h.stops d rfl).2
    rw [Option.toList_some, words_cons_of_not_startsWord hNot, words]

theorem signOf_eq (h : IsMarked w mark) : signOf (w ++ mark.toList) = mark := by
  rw [signOf, h.words_eq, List.getLast?_singleton, Option.getD_some, List.length_append,
    Nat.add_sub_cancel_left]
  cases mark with
  | none => rfl
  | some d => exact (if_pos rfl).trans List.getLast?_concat

theorem layout_lexeme (h : IsMarked w mark) :
    (lexeme (w ++ mark.toList)).layout = w ++ mark.toList := by
  show (lexeme (w ++ mark.toList)).render = _
  rw [render_lexeme, h.words_eq, h.signOf_eq, List.flatten_singleton]

theorem leaves_lexeme (h : IsMarked w mark) : (lexeme (w ++ mark.toList)).leaves =
    w.map Leaf.classify ++ mark.toList.map Leaf.sign := by
  rw [Parse.leaves_lexeme, h.words_eq, h.signOf_eq, List.flatten_singleton]

end IsMarked

theorem IsLexeme.exists_isMarked {n : Node} (h : IsLexeme n) :
    ∃ w mark, IsMarked w mark ∧ n = lexeme (w ++ mark.toList) := by
  obtain @⟨w, mark, hWord, hStops⟩ := h
  obtain ⟨c, t, rfl, hOpens, hContinues⟩ := isWord_iff.1 hWord
  have hMarked : IsMarked (c :: t) mark := by
    refine ⟨⟨c, rfl, hOpens⟩, ?_, hStops⟩
    rw [List.forall_mem_cons]
    exact ⟨continuesWord_of_startsWord (startsWord_of_opensWord hOpens), hContinues⟩
  refine ⟨c :: t, mark, hMarked, ?_⟩
  rw [lexeme_eq, hMarked.words_eq, hMarked.signOf_eq]
  rfl

section Lexeme

variable {n : Node}

/-- A canonical lexeme is what its own text is parsed into. -/
theorem IsLexeme.lexeme_layout (h : IsLexeme n) : lexeme n.layout = n := by
  obtain ⟨w, mark, hMarked, rfl⟩ := h.exists_isMarked
  rw [hMarked.layout_lexeme]

theorem IsLexeme.startsLexeme_head? (h : IsLexeme n) : ∃ c ∈ n.layout.head?, startsLexeme c := by
  obtain ⟨w, mark, hMarked, rfl⟩ := h.exists_isMarked
  obtain ⟨c, hc, hOpens⟩ := hMarked.opens
  rw [hMarked.layout_lexeme]
  exact ⟨c, List.mem_head?_append_of_mem_head? hc, startsLexeme_of_opensWord hOpens⟩

theorem IsLexeme.isBlank_eq_false (h : IsLexeme n) : ∀ c ∈ n.layout, isBlank c = false := by
  obtain ⟨w, mark, hMarked, rfl⟩ := h.exists_isMarked
  rw [hMarked.layout_lexeme, List.forall_mem_append]
  constructor
  · exact fun c hc => isBlank_eq_false_of_continuesWord (hMarked.continues c hc)
  · exact fun c hc => (hMarked.stops c (Option.mem_toList.1 hc)).1

theorem IsLexeme.isTrimmed_layout (h : IsLexeme n) : IsTrimmed n.layout := by
  refine isTrimmed_of_forall (fun hNil => ?_) h.isBlank_eq_false
  obtain ⟨c, hc, -⟩ := h.startsLexeme_head?
  rw [hNil] at hc
  cases hc

theorem IsLexeme.marksAtEnd_layout (h : IsLexeme n) : MarksAtEnd (endsTerminal n) n.layout := by
  obtain ⟨w, mark, hMarked, rfl⟩ := h.exists_isMarked
  have hWord : ∀ c ∈ w, isTerminal c = false :=
    fun c hc => isTerminal_eq_false_of_continuesWord (hMarked.continues c hc)
  rw [hMarked.layout_lexeme, endsTerminal, hMarked.leaves_lexeme]
  refine .append hWord ?_
  cases mark with
  | none =>
    -- the last leaf is in the word
    rw [Option.toList_none, List.map_nil, List.append_nil]
    cases hLast : (w.map Leaf.classify).getLast? with
    | none => exact .nil
    | some l =>
      obtain ⟨c, hc, rfl⟩ := List.mem_map.1 (List.mem_of_getLast? hLast)
      rw [Option.any_some, Leaf.symbol_classify, hWord c hc, Bool.and_false]
      exact .nil
  | some c =>
    rw [Option.toList_some, List.map_singleton, List.getLast?_concat]
    exact .singleton c

theorem IsLexeme.leaves_ne_nil (h : IsLexeme n) : n.leaves ≠ [] := by
  obtain ⟨w, mark, hMarked, rfl⟩ := h.exists_isMarked
  obtain ⟨c, hc, -⟩ := hMarked.opens
  obtain ⟨t, rfl⟩ := List.head?_eq_some_iff.1 hc
  rw [hMarked.leaves_lexeme]
  exact List.cons_ne_nil _ _

end Lexeme

/-! ### Levels above -/

theorem endsTerminal_composite {level : Level} {ns : List Node} {last : Node}
    (h : last.leaves ≠ []) : endsTerminal (composite level (ns ++ [last])) = endsTerminal last := by
  rw [endsTerminal, leaves_composite, List.flatMap_append, List.flatMap_singleton,
    List.getLast?_append, List.getLast?_eq_some_getLast h, Option.some_or, endsTerminal,
    List.getLast?_eq_some_getLast h]

/-- What a canonical sentence or paragraph is laid out as: a line without blanks at its ends. -/
structure IsLine (t : Text) : Prop where
  trimmed : IsTrimmed t
  feed : '\n' ∉ t

theorem isLine_join {lines : List Text} (hNe : lines ≠ []) (h : ∀ t ∈ lines, IsLine t) :
    IsLine (join [' '] lines) := by
  refine ⟨isTrimmed_join [' '] hNe fun t ht => (h t ht).trimmed, fun hFeed => ?_⟩
  rcases mem_join hFeed with hFeed | ⟨t, ht, hFeed⟩
  · cases List.mem_singleton.1 hFeed
  · exact (h t ht).feed hFeed

theorem IsLexeme.isLine_layout {n : Node} (h : IsLexeme n) : IsLine n.layout := by
  refine ⟨h.isTrimmed_layout, fun hFeed => ?_⟩
  cases h.isBlank_eq_false _ hFeed

theorem map_layout_eq_self {parse : Text → Node} {ns : List Node}
    (h : ∀ n ∈ ns, parse n.layout = n) : (ns.map layout).map parse = ns := by
  rw [List.map_map]
  exact (List.map_congr_left h).trans (List.map_id ns)

section Levels

variable {n : Node}

/-- A canonical sentence is what its own line is parsed into. -/
theorem IsSentence.sentence_layout (h : IsSentence n) : sentence n.layout = n := by
  obtain @⟨lexemes, last, hLexemes, hLast⟩ := h
  have hAll : ∀ l ∈ lexemes ++ [last], IsLexeme l := by
    rw [List.forall_mem_append, List.forall_mem_singleton]
    exact ⟨fun l hl => (hLexemes l hl).1, hLast⟩
  have hSplit : splitLexemes (join [' '] ((lexemes ++ [last]).map layout)) =
      (lexemes ++ [last]).map layout := by
    refine splitLexemes_join ?_ ?_
    · rw [List.forall_mem_map]
      exact fun l hl => (hAll l hl).isBlank_eq_false
    · rw [List.forall_mem_map]
      exact fun l hl => (hAll l hl).startsLexeme_head?
  rw [layout_sentence, sentence, hSplit, map_layout_eq_self fun l hl => (hAll l hl).lexeme_layout]

theorem IsSentence.isLine_layout (h : IsSentence n) : IsLine n.layout := by
  obtain @⟨lexemes, last, hLexemes, hLast⟩ := h
  rw [layout_sentence]
  refine isLine_join (by simp) ?_
  rw [List.forall_mem_map, List.forall_mem_append, List.forall_mem_singleton]
  exact ⟨fun l hl => (hLexemes l hl).1.isLine_layout, hLast.isLine_layout⟩

/-- Terminal marks stand at the end of a canonical sentence only. -/
theorem IsSentence.marksAtEnd_layout (h : IsSentence n) :
    MarksAtEnd (endsTerminal n) n.layout := by
  obtain @⟨lexemes, last, hLexemes, hLast⟩ := h
  rw [endsTerminal_composite hLast.leaves_ne_nil, layout_sentence, List.map_append,
    List.map_singleton]
  refine marksAtEnd_join ?_ hLast.marksAtEnd_layout
  rw [List.forall_mem_map]
  intro l hl
  have hMarks := (hLexemes l hl).1.marksAtEnd_layout
  rwa [(hLexemes l hl).2] at hMarks

/-- A canonical paragraph is what its own line is parsed into. -/
theorem IsParagraph.paragraph_layout (h : IsParagraph n) : paragraph n.layout = n := by
  obtain @⟨sentences, last, hSentences, hLast⟩ := h
  have hAll : ∀ s ∈ sentences ++ [last], IsSentence s := by
    rw [List.forall_mem_append, List.forall_mem_singleton]
    exact ⟨fun s hs => (hSentences s hs).1, hLast⟩
  have hSplit : splitSentences (join [' '] ((sentences ++ [last]).map layout)) =
      (sentences ++ [last]).map layout := by
    rw [List.map_append, List.map_singleton]
    refine splitSentences_join ?_ hLast.isLine_layout.trimmed hLast.marksAtEnd_layout
    rw [List.forall_mem_map]
    intro s hs
    have hMarks := (hSentences s hs).1.marksAtEnd_layout
    rw [(hSentences s hs).2] at hMarks
    exact ⟨(hSentences s hs).1.isLine_layout.trimmed, hMarks⟩
  rw [layout_paragraph, paragraph, hSplit,
    map_layout_eq_self fun s hs => (hAll s hs).sentence_layout]

theorem IsParagraph.isLine_layout (h : IsParagraph n) : IsLine n.layout := by
  obtain @⟨sentences, last, hSentences, hLast⟩ := h
  rw [layout_paragraph]
  refine isLine_join (by simp) ?_
  rw [List.forall_mem_map, List.forall_mem_append, List.forall_mem_singleton]
  exact ⟨fun s hs => (hSentences s hs).1.isLine_layout, hLast.isLine_layout⟩

/-- With the line feed as delimiter, a canonical document is what its own lines are parsed into. -/
theorem IsDocument.document_layout (h : IsDocument n) :
    Pattern.ofText? "\\n".toList = some lineFeed ∧ document lineFeed n.layout = n := by
  obtain @⟨paragraphs, hParagraphs⟩ := h
  have hLines : ∀ t ∈ paragraphs.map layout, IsLine t := by
    rw [List.forall_mem_map]
    exact fun p hp => (hParagraphs p hp).isLine_layout
  have hSplit : splitParagraphs lineFeed (join ['\n'] (paragraphs.map layout)) =
      paragraphs.map layout :=
    splitParagraphs_lineFeed_join (fun t ht => (hLines t ht).trimmed) fun t ht => (hLines t ht).feed
  refine ⟨ofText?_lineFeed, ?_⟩
  rw [layout_document, document, hSplit,
    map_layout_eq_self fun p hp => (hParagraphs p hp).paragraph_layout]

end Levels

/-- Two paragraphs, with an ellipsis, a no-break space and a question mark as signs. -/
def twoParagraphs : Node :=
  .composite .document [
    .composite .paragraph [
      .composite .sentence [
        .composite .lexeme [word ['(', 'I', 't']],
        .composite .lexeme [word ['i', 's', 'n', '\'', 't', '-', 's', 'o', ')'], sign '…']],
      .composite .sentence [
        .composite .lexeme [word ['_', '9', '-'], sign '\u00a0'],
        .composite .lexeme [word ['N', 'o']]]],
    .composite .paragraph [
      .composite .sentence [.composite .lexeme [word ['Y', 'e', 's'], sign '?']]]]

theorem document_layout_twoParagraphs : IsDocument twoParagraphs ∧
    twoParagraphs.layout = "(It isn't-so)… _9-\u00a0 No\nYes?".toList ∧
    Pattern.ofText? "\\n".toList = some lineFeed ∧
    document lineFeed twoParagraphs.layout = twoParagraphs := by
  have hLexeme (c : Char) (t : Text) (mark : Option Char) (hOpens : opensWord c)
      (hContinues : t.all continuesWord)
      (hStops : mark.all fun d => !isBlank d && !continuesWord d) :
      IsLexeme (composite .lexeme (word (c :: t) :: mark.toList.map sign)) :=
    .mk (isWord_iff.2 ⟨c, t, rfl, hOpens, List.all_eq_true.1 hContinues⟩)
      (by simpa [Option.all_eq_true] using hStops)
  have hIt := hLexeme '(' ['I', 't'] none rfl rfl rfl
  have hSo := hLexeme 'i' ['s', 'n', '\'', 't', '-', 's', 'o', ')'] (some '…') rfl rfl rfl
  have hNine := hLexeme '_' ['9', '-'] (some '\u00a0') rfl rfl rfl
  have hNo := hLexeme 'N' ['o'] none rfl rfl rfl
  have hYes := hLexeme 'Y' ['e', 's'] (some '?') rfl rfl rfl
  have hFirst := IsSentence.mk (List.forall_mem_singleton.2 ⟨hIt, rfl⟩) hSo
  have hSecond := IsSentence.mk (List.forall_mem_singleton.2 ⟨hNine, rfl⟩) hNo
  have hThird := IsSentence.mk (List.forall_mem_nil _) hYes
  have hUpper := IsParagraph.mk (List.forall_mem_singleton.2 ⟨hFirst, rfl⟩) hSecond
  have hLower := IsParagraph.mk (List.forall_mem_nil _) hThird
  have hCanonical : IsDocument twoParagraphs :=
    .mk (List.forall_mem_cons.2 ⟨hUpper, List.forall_mem_singleton.2 hLower⟩)
  exact ⟨hCanonical, by cbv, hCanonical.document_layout⟩

end Prose.Canonical
