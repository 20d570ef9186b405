import Prose.Parse.Document
import Prose.Proofs.Analysis.Groups
import Prose.Proofs.Parse.Shape
import Prose.Proofs.Sorting

/-!
# Reordered trees

Paragraphs are sorted by their number of sentences and words by their number of letters, both
stably. Lexemes are sorted by how often they hold a symbol and, the other way round, by their text;
the result is reversed, so the most frequent come first and full ties stand in reverse order
(`corresponds_sortLexemes`). In a parsed document sorting moves leaves and loses none, because no
node above the words of a sentence is a leaf (`isStableSort_and_sameNumbers_document`).
-/

namespace Prose

/-! ### Texts -/

theorem Text.le_iff {s t : Text} : Text.le s t ↔ s ≤ t := by
  induction s generalizing t with
  | nil =>
    refine iff_of_true rfl (le_of_not_gt fun h => ?_)
    cases h
  | cons c s ih =>
    cases t with
    | nil =>
      refine iff_of_false (by simp [Text.le]) (not_le_of_gt ?_)
      exact .nil
    | cons d t =>
      have hTail : s ≤ t ↔ s = t ∨ s < t := le_iff_eq_or_lt
      have hCons : c :: s ≤ d :: t ↔ c :: s = d :: t ∨ c :: s < d :: t := le_iff_eq_or_lt
      rw [Text.le, Bool.or_eq_true, Bool.and_eq_true, decide_eq_true_eq, decide_eq_true_eq, ih,
        hTail, hCons, List.cons_lt_cons_iff, List.cons.injEq]
      tauto

namespace Node

/-! ### Places -/

/-- Both trees have as many paragraphs with as many sentences in each, and sentences at the same
place are related by `R`. -/
def Corresponds (R : Node → Node → Prop) (t u : Node) : Prop :=
  List.Forall₂ (List.Forall₂ R) t.groups u.groups

theorem mapSentences_eq_ofGroups (f : Node → List Node) (t : Node) :
    t.mapSentences f = ofGroups (t.groups.map (·.map fun s => .composite .sentence (f s))) := by
  rw [mapSentences, ofGroups, groups, List.map_map, List.map_map]
  rfl

theorem corresponds_mapSentences {R : Node → Node → Prop} {f : Node → List Node}
    (h : ∀ s, R s (.composite .sentence (f s))) (t : Node) :
    Corresponds R t (t.mapSentences f) := by
  rw [Corresponds, mapSentences_eq_ofGroups, groups_ofGroups, List.forall₂_map_right_iff]
  refine List.forall₂_same.2 fun g _ => ?_
  rw [List.forall₂_map_right_iff]
  exact List.forall₂_same.2 fun s _ => h s

/-! ### Lexemes -/

/-- The lexemes in the order of a symbol: those that hold it more often first, of equally many the
earlier text first, and those with one text in reverse order. -/
structure IsSymbolOrder (symbol : Char) (lexemes sorted : List Node) : Prop where
  perm : sorted.Perm lexemes
  ordered : sorted.Pairwise fun l m => m.count symbol < l.count symbol ∨
    (l.count symbol = m.count symbol ∧ l.foldedText ≤ m.foldedText)
  ties : ∀ n u, sorted.filter (fun l => l.count symbol = n ∧ l.foldedText = u) =
    (lexemes.filter fun l => l.count symbol = n ∧ l.foldedText = u).reverse

/-- What lexemes are sorted by before the result is reversed. -/
def symbolKey (symbol : Char) (l : Node) : Nat ×ₗ Textᵒᵈ :=
  toLex (l.count symbol, OrderDual.toDual l.foldedText)

variable {symbol : Char}

theorem symbolKey_le_iff {l m : Node} : symbolKey symbol l ≤ symbolKey symbol m ↔
    l.count symbol < m.count symbol ∨
      (l.count symbol = m.count symbol ∧ m.foldedText ≤ l.foldedText) :=
  Prod.Lex.toLex_le_toLex

theorem symbolKey_eq_iff {l : Node} {n : Nat} {u : Text} :
    symbolKey symbol l = toLex (n, OrderDual.toDual u) ↔ l.count symbol = n ∧ l.foldedText = u := by
  rw [symbolKey, toLex_inj, Prod.mk.injEq, OrderDual.toDual_inj]

theorem symbolLe_iff (l m : Node) :
    symbolLe symbol l m ↔ symbolKey symbol l ≤ symbolKey symbol m := by
  rw [symbolKey_le_iff, symbolLe, Bool.or_eq_true, Bool.and_eq_true, decide_eq_true_eq,
    decide_eq_true_eq, Text.le_iff]

/-- Back to front, the order of a symbol is a stable sort. -/
theorem isSymbolOrder_iff {lexemes sorted : List Node} : IsSymbolOrder symbol lexemes sorted ↔
    IsStableSort (symbolKey symbol) lexemes sorted.reverse := by
  have hLater {l m : Node} : (m.count symbol < l.count symbol ∨
      (l.count symbol = m.count symbol ∧ l.foldedText ≤ m.foldedText)) ↔
        symbolKey symbol m ≤ symbolKey symbol l := by
    rw [symbolKey_le_iff, eq_comm]
  constructor
  · intro h
    refine ⟨(List.reverse_perm sorted).trans h.perm, ?_, fun k => ?_⟩
    · rw [List.pairwise_reverse]
      exact h.ordered.imp hLater.1
    · obtain ⟨n, u, rfl⟩ : ∃ n u, k = toLex (n, OrderDual.toDual u) :=
        ⟨(ofLex k).1, OrderDual.ofDual (ofLex k).2, rfl⟩
      simp only [symbolKey_eq_iff, List.filter_reverse, h.ties, List.reverse_reverse]
  · intro h
    refine ⟨(List.reverse_perm sorted).symm.trans h.perm, ?_, fun n u => ?_⟩
    · exact (List.pairwise_reverse.1 h.ordered).imp hLater.2
    · have hTies := h.ties (toLex (n, OrderDual.toDual u))
      simp only [symbolKey_eq_iff, List.filter_reverse] at hTies
      rw [← hTies, List.reverse_reverse]

/-- The lexemes come out in the order of the symbol, and no other list is in it. -/
theorem eq_reverse_mergeSort_iff {lexemes sorted : List Node} :
    sorted = (lexemes.mergeSort (symbolLe symbol)).reverse ↔
      IsSymbolOrder symbol lexemes sorted := by
  rw [isSymbolOrder_iff, isStableSort_iff symbolLe_iff, List.reverse_eq_iff]

/-- Sorting the lexemes leaves the numbers of paragraphs and sentences as they are. The lexemes of
each sentence come into the order of the symbol, which determines them. -/
theorem corresponds_sortLexemes (symbol : Char) (t : Node) :
    Corresponds (fun s s' => ∀ sorted,
      sorted = s'.children ↔ IsSymbolOrder symbol s.children sorted) t (t.sortLexemes symbol) :=
  corresponds_mapSentences (fun _ _ => eq_reverse_mergeSort_iff) t

/-- Texts that differ in case only come out in reverse order. -/
example : ((Parse.document Parse.paragraphBreak "ab banana aB cab".toList).sortLexemes 'a').layout =
    "banana aB ab cab".toList := by cbv

/-! ### Paragraphs and words -/

theorem isStableSort_sortParagraphs (t : Node) :
    IsStableSort childCount t.children t.sortParagraphs.children :=
  isStableSort_mergeSort (fun _ _ => decide_eq_true_iff) t.children

theorem sortParagraphs_sortParagraphs (t : Node) :
    t.sortParagraphs.sortParagraphs = t.sortParagraphs := by
  have hSorted : t.sortParagraphs.children.mergeSort (fun p q => p.childCount ≤ q.childCount) =
      t.sortParagraphs.children := by
    refine List.mergeSort_of_pairwise ?_
    exact (isStableSort_sortParagraphs t).ordered.imp decide_eq_true
  rw [sortParagraphs, hSorted]
  rfl

/-- The words of a sentence, shorter ones first, and its other parts behind them. -/
def sortedParts (s : Node) : List Node :=
  (s.words.mergeSort fun v w => v.letterCount ≤ w.letterCount) ++ s.parts.filter (!·.isWord)

theorem corresponds_sortWords (t : Node) :
    Corresponds (fun s s' => ∃ words, IsStableSort letterCount s.words words ∧
      s'.children = words ++ s.parts.filter (!·.isWord)) t t.sortWords :=
  corresponds_mapSentences
    (fun s => ⟨_, isStableSort_mergeSort (fun _ _ => decide_eq_true_iff) s.words, rfl⟩) t

/-! ### Leaves -/

theorem leaves_sortParagraphs_perm {t : Node} (h : IsDocument t) :
    t.sortParagraphs.leaves.Perm t.leaves := by
  obtain @⟨paragraphs, -⟩ := h
  rw [sortParagraphs, leaves_composite, leaves_composite]
  exact (List.mergeSort_perm paragraphs _).flatMap_right leaves

theorem sortedParts_perm (s : Node) : s.sortedParts.Perm s.parts := by
  have hWords := (List.mergeSort_perm s.words fun v w => v.letterCount ≤ w.letterCount).append_right
    (s.parts.filter (!·.isWord))
  exact hWords.trans (List.filter_append_perm isWord s.parts)

/-- The leaves of a parsed sentence are below the nodes that stand two levels below it. -/
theorem leaves_of_isSentence {s : Node} (h : IsSentence s) : s.leaves = s.parts.flatMap leaves := by
  obtain @⟨lexemes, hNe, hLexemes⟩ := h
  rw [leaves_composite, parts, children, List.flatMap_assoc]
  refine List.flatMap_congr fun l hl => ?_
  obtain @⟨words, mark, -⟩ := hLexemes l hl
  exact leaves_composite _ _

theorem leaves_mapSentences_perm {f : Node → List Node} {t : Node} (ht : IsDocument t)
    (h : ∀ s, IsSentence s → ((f s).flatMap leaves).Perm s.leaves) :
    (t.mapSentences f).leaves.Perm t.leaves := by
  obtain @⟨paragraphs, hParagraphs⟩ := ht
  rw [mapSentences, leaves_composite, leaves_composite, children, List.flatMap_map]
  refine List.Perm.flatMap_left paragraphs fun p hp => ?_
  obtain @⟨sentences, -, hSentences⟩ := hParagraphs p hp
  rw [leaves_composite, leaves_composite, children, List.flatMap_map]
  refine List.Perm.flatMap_left sentences fun s hs => ?_
  rw [leaves_composite]
  exact h s (hSentences s hs)

theorem leaves_sortWords_perm {t : Node} (h : IsDocument t) : t.sortWords.leaves.Perm t.leaves := by
  refine leaves_mapSentences_perm h fun s hs => ?_
  rw [leaves_of_isSentence hs]
  exact (sortedParts_perm s).flatMap_right leaves

/-! ### Numbers -/

/-- Two trees have as many paragraphs and sentences and each character as often. -/
structure SameNumbers (t u : Node) : Prop where
  paragraphs : u.childCount = t.childCount
  sentences : u.sentences.length = t.sentences.length
  symbols : ∀ c, u.count c = t.count c

theorem sameNumbers_of_perm {t u : Node} (hLeaves : u.leaves.Perm t.leaves)
    (hLengths : (u.groups.map List.length).Perm (t.groups.map List.length)) : SameNumbers t u where
  paragraphs := by simpa [groups, childCount] using hLengths.length_eq
  sentences := by
    rw [sentences_eq_flatten_groups, sentences_eq_flatten_groups, List.length_flatten,
      List.length_flatten, hLengths.sum_eq]
  symbols c := by
    rw [count_eq_count_render, count_eq_count_render, render_eq_map_leaves, render_eq_map_leaves]
    exact (hLeaves.map Leaf.symbol).count_eq c

theorem sameNumbers_sortParagraphs {t : Node} (h : IsDocument t) :
    SameNumbers t t.sortParagraphs := by
  have hGroups : t.sortParagraphs.groups.Perm t.groups :=
    (isStableSort_sortParagraphs t).perm.map children
  exact sameNumbers_of_perm (leaves_sortParagraphs_perm h) (hGroups.map List.length)

theorem sameNumbers_sortWords {t : Node} (h : IsDocument t) : SameNumbers t t.sortWords := by
  have hLengths : t.sortWords.groups.map List.length = t.groups.map List.length := by
    rw [sortWords, mapSentences_eq_ofGroups, groups_ofGroups, List.map_map]
    exact List.map_congr_left fun g _ => List.length_map _
  exact sameNumbers_of_perm (leaves_sortWords_perm h) (.of_eq hLengths)

/-- The paragraphs of any tree are sorted stably, and a second time changes nothing. Each sentence
becomes its words, sorted stably, and the other nodes two levels below it as they stand. In a parsed
document neither changes the numbers of paragraphs, of sentences and of each character. -/
theorem isStableSort_and_sameNumbers_document :
    (∀ t : Node, IsStableSort childCount t.children t.sortParagraphs.children ∧
      t.sortParagraphs.sortParagraphs = t.sortParagraphs) ∧
    (∀ t : Node, Corresponds (fun s s' => ∃ words, IsStableSort letterCount s.words words ∧
      s'.children = words ++ s.parts.filter (!·.isWord)) t t.sortWords) ∧
    ∀ (delimiter : Pattern) (text : Text),
      SameNumbers (Parse.document delimiter text) (Parse.document delimiter text).sortParagraphs ∧
        SameNumbers (Parse.document delimiter text) (Parse.document delimiter text).sortWords := by
  refine ⟨fun t => ⟨isStableSort_sortParagraphs t, sortParagraphs_sortParagraphs t⟩,
    corresponds_sortWords, fun delimiter text => ?_⟩
  have hDocument := Parse.isDocument_document delimiter text
  exact ⟨sameNumbers_sortParagraphs hDocument, sameNumbers_sortWords hDocument⟩

end Node

end Prose
