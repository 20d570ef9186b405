import Prose.Analysis.Vowels
import Prose.Proofs.Parse.Conservation

/-!
# Letters in the analyses

The words of a parsed sentence hold the letters of its text (`wordLetters_sentence`): what parsing
drops is no letter, and a sign stands beside the words. So the vowels and consonants of all
sentences together are those of the text (`sum_letterCounts_document`).
-/

namespace Prose.Parse

open Text

/-! ### Sentences -/

/-- The words of a sentence are the words of its lexemes; the signs of lexemes are not among
them. -/
theorem words_sentence (t : Text) :
    (sentence t).words = (splitLexemes t).flatMap fun u => (words u).map word := by
  have hLexeme (u : Text) : (lexeme u).children.filter Node.isWord = (words u).map word := by
    have hWords : ((words u).map word).filter Node.isWord = (words u).map word := by
      rw [List.filter_eq_self, List.forall_mem_map]
      exact fun w _ => rfl
    have hSigns (s : Text) : (s.map Node.sign).filter Node.isWord = [] := by
      rw [List.filter_eq_nil_iff, List.forall_mem_map]
      exact fun c _ => by simp [Node.isWord, Node.sign, Node.kind, Leaf.kind]
    rw [lexeme, Node.children, List.filter_append, hWords]
    split
    · rw [hSigns, List.append_nil]
    · exact List.append_nil _
  rw [Node.words, Node.parts, List.filter_flatMap, sentence, Node.children, List.flatMap_map]
  simp only [hLexeme]

/-- The letters of a word are the word characters of its text. -/
theorem filterMap_letter?_children_word (t : Text) :
    (word t).children.filterMap Node.letter? = t.filter isWordChar := by
  rw [word, Node.children, List.filterMap_map, ← List.filterMap_eq_filter]
  refine List.filterMap_congr fun c _ => ?_
  rw [Function.comp_apply, Leaf.classify]
  split <;> simp_all [Node.letter?, Option.guard]

theorem filter_isAlpha_filter_isWordChar (t : Text) :
    (t.filter isWordChar).filter Char.isAlpha = t.filter Char.isAlpha := by
  rw [List.filter_filter]
  refine List.filter_congr fun c _ => ?_
  by_cases h : c.isAlpha
  · rw [isWordChar_of_isAlpha h, Bool.and_true]
  · simp [h]

/-- The words of a sentence hold the ASCII letters of its text, each once and in their order. -/
theorem wordLetters_sentence (t : Text) : (sentence t).wordLetters = t.filter Char.isAlpha := by
  have hKept : Loses (!startsWord ·) t ((splitLexemes t).flatMap words).flatten := by
    have hBlanks : Loses (!startsWord ·) t (splitLexemes t).flatten :=
      (loses_splitLexemes t).mono fun c hc => by simp [startsWord_eq_false_of_isBlank hc]
    exact hBlanks.trans (.flatten_flatMap fun u _ => loses_words u)
  have hLetters : (sentence t).wordLetters =
      ((splitLexemes t).flatMap words).flatten.filter Char.isAlpha := by
    rw [Node.wordLetters, words_sentence, ← List.flatMap_id, List.flatMap_assoc, List.flatMap_assoc]
    simp only [List.flatMap_map, filterMap_letter?_children_word, List.filter_flatMap,
      filter_isAlpha_filter_isWordChar, id_eq]
  rw [hLetters]
  exact hKept.filter_eq fun c hc => by
    simp [startsWord_of_isWordChar (isWordChar_of_isAlpha hc)]

/-! ### Documents -/

theorem sentences_document (delimiter : Pattern) (t : Text) :
    (document delimiter t).sentences =
      ((splitParagraphs delimiter t).flatMap splitSentences).map sentence := by
  rw [Node.sentences, document, Node.children, List.flatMap_map, List.map_flatMap]
  rfl

/-- The words of all sentences hold the ASCII letters of the text. -/
theorem flatMap_wordLetters_document (t : Text) :
    (document paragraphBreak t).sentences.flatMap Node.wordLetters = t.filter Char.isAlpha := by
  have hKept :
      Loses isBlank t ((splitParagraphs paragraphBreak t).flatMap splitSentences).flatten :=
    (loses_splitParagraphs consumes_paragraphBreak t).trans
      (.flatten_flatMap fun s _ => loses_splitSentences s)
  rw [sentences_document, List.flatMap_map, ← hKept.filter_eq, List.filter_flatten,
    List.flatMap_def]
  · simp only [wordLetters_sentence]
  · exact fun c hc => isBlank_eq_false (p := Char.isAlpha) (by decide) hc

/-- The vowels of all sentences together are the ASCII letters of the text whose lowercase form is
in the set, and the consonants are its other ASCII letters. There is one entry for each sentence, in
the order of the document. -/
theorem sum_letterCounts_document (v : VowelSet) (t : Text) :
    let counts := (document paragraphBreak t).letterCounts v
    (counts.map LetterCounts.vowels).sum = t.countP (fun c => c.isAlpha ∧ c.toLower ∈ v.letters) ∧
      (counts.map LetterCounts.consonants).sum =
        t.countP (fun c => c.isAlpha ∧ c.toLower ∉ v.letters) ∧
      counts.map LetterCounts.sentence = (document paragraphBreak t).sentences := by
  intro counts
  have hSum (p : Char → Bool) :
      ((document paragraphBreak t).sentences.map fun s => s.wordLetters.countP p).sum =
        t.countP fun c => p c && c.isAlpha := by
    rw [← List.countP_filter, ← flatMap_wordLetters_document, List.countP_flatMap]
    rfl
  have hMember (c : Char) : v.contains c = decide (c.toLower ∈ v.letters) := by
    rw [VowelSet.contains, List.contains_eq_mem]
  refine ⟨?_, ?_, ?_⟩
  · show (((document paragraphBreak t).letterCounts v).map LetterCounts.vowels).sum = _
    rw [Node.letterCounts, List.map_map]
    refine (hSum v.contains).trans (List.countP_congr fun c _ => ?_)
    simp [hMember, and_comm]
  · show (((document paragraphBreak t).letterCounts v).map LetterCounts.consonants).sum = _
    rw [Node.letterCounts, List.map_map]
    refine (hSum (!v.contains ·)).trans (List.countP_congr fun c _ => ?_)
    simp [hMember, and_comm]
  · show ((document paragraphBreak t).letterCounts v).map LetterCounts.sentence = _
    rw [Node.letterCounts, List.map_map]
    exact List.map_id _

end Prose.Parse
