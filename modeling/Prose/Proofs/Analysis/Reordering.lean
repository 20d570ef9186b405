import Prose.Analysis.Vowels
import Prose.Proofs.Analysis.Vocabulary

/-!
# Analyses of reordered trees

What an analysis finds does not depend on an order that it does not look at. Lexemes can stand in
any order in their sentences: the words of a sentence are then the same up to order, so its number
of words, its vowels and its consonants are the same, and short sentences can be left out before or
after (`dropShortSentences_mapSentences`). Paragraphs can stand in any order in the document: the
sentences are then the same up to order, and so is what is found in each of them.
-/

namespace Prose.Node

/-- The numbers of vowels and consonants in each sentence. -/
def letterNumbers (v : VowelSet) (t : Node) : List (Nat × Nat) :=
  (t.letterCounts v).map fun counts => (counts.vowels, counts.consonants)

theorem letterNumbers_eq_map (v : VowelSet) (t : Node) : t.letterNumbers v = t.sentences.map
    fun s => (s.wordLetters.countP v.contains, s.wordLetters.countP (!v.contains ·)) := by
  rw [letterNumbers, letterCounts, List.map_map]
  rfl

theorem duplicates_eq_of_perm {t u : Node} (h : u.vocabulary.Perm t.vocabulary) :
    u.duplicates = t.duplicates := by
  have hSorted : u.vocabulary.mergeSort Text.le = t.vocabulary.mergeSort Text.le :=
    (isStableSort_mergeSort_le _).eq_of_perm (isStableSort_mergeSort_le _) Function.injective_id h
  rw [duplicates, hSorted, duplicates]
  simp only [h.count_eq]

/-! ### Lexemes in another order -/

theorem sentences_mapSentences (f : Node → List Node) (t : Node) :
    (t.mapSentences f).sentences = t.sentences.map fun s => .composite .sentence (f s) := by
  rw [mapSentences_eq_ofGroups, sentences_eq_flatten_groups, groups_ofGroups,
    sentences_eq_flatten_groups, List.map_flatten]

section

variable {f : Node → List Node} (hf : ∀ s, (f s).Perm s.children)
include hf

theorem words_perm (s : Node) : (composite .sentence (f s)).words.Perm s.words :=
  ((hf s).flatMap_right children).filter isWord

theorem wordLetters_perm (s : Node) :
    (composite .sentence (f s)).wordLetters.Perm s.wordLetters :=
  ((words_perm hf s).flatMap_right _).filter Char.isAlpha

theorem dropShortSentences_mapSentences (least : Nat) (t : Node) :
    (t.mapSentences f).dropShortSentences least = (t.dropShortSentences least).mapSentences f := by
  have hWords : hasWords least ∘ (fun s => composite .sentence (f s)) = hasWords least := by
    funext s
    rw [Function.comp_apply, hasWords, (words_perm hf s).length_eq, hasWords]
  rw [dropShortSentences_eq_ofGroups, mapSentences_eq_ofGroups, groups_ofGroups, thin_map, hWords,
    mapSentences_eq_ofGroups, groups_dropShortSentences]

theorem duplicates_mapSentences (t : Node) : (t.mapSentences f).duplicates = t.duplicates := by
  refine duplicates_eq_of_perm ?_
  rw [vocabulary, sentences_mapSentences, List.flatMap_map]
  exact List.Perm.flatMap_left _ fun s _ => (words_perm hf s).map foldedText

theorem letterNumbers_mapSentences (v : VowelSet) (t : Node) :
    (t.mapSentences f).letterNumbers v = t.letterNumbers v := by
  rw [letterNumbers_eq_map, sentences_mapSentences, List.map_map, letterNumbers_eq_map]
  refine List.map_congr_left fun s _ => ?_
  rw [Function.comp_apply, (wordLetters_perm hf s).countP_eq, (wordLetters_perm hf s).countP_eq]

end

/-! ### Sentences in another order -/

section

variable {t u : Node} (h : u.sentences.Perm t.sentences)
include h

theorem duplicates_eq_of_sentences_perm : u.duplicates = t.duplicates :=
  duplicates_eq_of_perm (h.flatMap_right _)

theorem letterNumbers_perm (v : VowelSet) : (u.letterNumbers v).Perm (t.letterNumbers v) := by
  rw [letterNumbers_eq_map, letterNumbers_eq_map]
  exact h.map _

theorem longestSentences_perm : u.longestSentences.Perm t.longestSentences := by
  have hSame (sentence : Node) : u.HasLongestWord sentence ↔ t.HasLongestWord sentence := by
    simp only [HasLongestWord, h.mem_iff]
  rw [longestSentences_eq_filter, longestSentences_eq_filter]
  simp only [hSame]
  exact h.filter _

end

theorem sentences_sortParagraphs_perm (t : Node) :
    t.sortParagraphs.sentences.Perm t.sentences :=
  (isStableSort_sortParagraphs t).perm.flatMap_right children

/-- To leave out short sentences and to sort lexemes come to the same in either order. Sorting
lexemes changes neither the repeated words nor the numbers of vowels and consonants in each
sentence; sorting paragraphs keeps the repeated words too, and it takes along with the sentences
their numbers of vowels and consonants and whether they have a longest word. -/
theorem dropShortSentences_comm_and_analyses_sorted (t : Node) (symbol : Char) (least : Nat) :
    (t.sortLexemes symbol).dropShortSentences least =
      (t.dropShortSentences least).sortLexemes symbol ∧
    ((t.sortLexemes symbol).duplicates = t.duplicates ∧
      t.sortParagraphs.duplicates = t.duplicates) ∧
    (∀ v : VowelSet, (t.sortLexemes symbol).letterNumbers v = t.letterNumbers v ∧
      (t.sortParagraphs.letterNumbers v).Perm (t.letterNumbers v)) ∧
    t.sortParagraphs.longestSentences.Perm t.longestSentences := by
  have hLexemes (s : Node) : (s.children.mergeSort (symbolLe symbol)).reverse.Perm s.children :=
    (eq_reverse_mergeSort_iff.1 rfl).perm
  have hSentences := sentences_sortParagraphs_perm t
  refine ⟨?_, ⟨?_, ?_⟩, fun v => ⟨?_, ?_⟩, ?_⟩
  · exact dropShortSentences_mapSentences hLexemes least t
  · exact duplicates_mapSentences hLexemes t
  · exact duplicates_eq_of_sentences_perm hSentences
  · exact letterNumbers_mapSentences hLexemes v t
  · exact letterNumbers_perm hSentences v
  · exact longestSentences_perm hSentences

end Prose.Node
