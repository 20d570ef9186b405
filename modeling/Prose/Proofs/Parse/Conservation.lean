import Prose.Proofs.Parse.Delimiter
import Prose.Proofs.Parse.Lexeme
import Prose.Proofs.Tree.Leaves

/-!
# What parsing keeps

Down to the lexemes a text loses blanks only (`loses_lexemeTexts`), and the words of a lexeme are
the lexeme without some of the characters that start no word (`loses_words`). So all characters that
start a word stand below the words of the document, each once and in their order, and its letters
are the word characters of the text (`wordLeaves_and_letters_document`).
-/

namespace Prose.Parse

open Text

/-! ### Cutting -/

theorem loses_lexemePieces (t : Text) : Loses isBlank t (lexemePieces t).flatten := by
  fun_induction lexemePieces t with
  | case1 => exact .refl isBlank []
  | case2 c rest hCut ih =>
    rw [Bool.and_eq_true] at hCut
    have hRun : Loses isBlank rest (lexemePieces (rest.dropWhile isBlank)).flatten :=
      (loses_dropWhile isBlank rest).trans ih
    exact .append_left (l := [c]) (by simpa using hCut.1) hRun
  | case3 c rest hKeep ih =>
    rw [flatten_consFirst]
    exact .cons c ih

theorem loses_splitLexemes (t : Text) : Loses isBlank t (splitLexemes t).flatten := by
  rw [splitLexemes, List.flatten_filter_not_isEmpty]
  exact loses_lexemePieces t

/-- The pieces of a paragraph are all of it. -/
theorem flatten_sentencePieces (t : Text) : (sentencePieces t).flatten = t := by
  fun_induction sentencePieces t with
  | case1 => rfl
  | case2 c rest marked ih =>
    rw [List.flatten_cons, ih, List.append_assoc, List.takeWhile_append_dropWhile,
      List.takeWhile_append_dropWhile]

/-- Trimming the pieces of a text and dropping the empty ones loses blanks. -/
theorem loses_trimmed (pieces : List Text) :
    Loses isBlank pieces.flatten ((pieces.map trim).filter (!·.isEmpty)).flatten := by
  rw [List.flatten_filter_not_isEmpty]
  exact .flatten_map fun piece _ => loses_trim piece

theorem loses_splitSentences (t : Text) : Loses isBlank t (splitSentences t).flatten := by
  have hPieces := loses_trimmed (sentencePieces t)
  rwa [flatten_sentencePieces] at hPieces

theorem loses_splitParagraphs {delimiter : Pattern} (h : delimiter.Consumes isBlank) (t : Text) :
    Loses isBlank t (splitParagraphs delimiter t).flatten :=
  (h.loses_split t).trans (loses_trimmed _)

/-- The lexemes of a text in order. -/
def lexemeTexts (t : Text) : List Text :=
  (splitParagraphs paragraphBreak t).flatMap fun p => (splitSentences p).flatMap splitLexemes

theorem loses_lexemeTexts (t : Text) : Loses isBlank t (lexemeTexts t).flatten := by
  have hSentences : ∀ s, Loses isBlank s ((splitSentences s).flatMap splitLexemes).flatten :=
    fun s => (loses_splitSentences s).trans (.flatten_flatMap fun u _ => loses_splitLexemes u)
  exact (loses_splitParagraphs consumes_paragraphBreak t).trans
    (.flatten_flatMap fun s _ => hSentences s)

/-- The words of a lexeme lack only characters that start no word. -/
theorem loses_words (t : Text) : Loses (!startsWord ·) t (words t).flatten := by
  fun_induction words t with
  | case1 => exact .refl _ []
  | case2 c rest hStarts ih =>
    have hRest := (Loses.refl (!startsWord ·) (rest.takeWhile continuesWord)).append ih
    rw [List.takeWhile_append_dropWhile] at hRest
    exact .cons c hRest
  | case3 c rest hNot ih => exact .append_left (l := [c]) (by simpa using hNot) ih

theorem startsWord_eq_false_of_isBlank {c : Char} (h : isBlank c) : startsWord c = false :=
  eq_false_of_isBlank (by decide) h

/-- The words of a text lack only characters that start no word. -/
theorem loses_flatMap_words (t : Text) :
    Loses (!startsWord ·) t ((lexemeTexts t).flatMap words).flatten := by
  have hBlanks : Loses (!startsWord ·) t (lexemeTexts t).flatten :=
    (loses_lexemeTexts t).mono fun c hc => by simp [startsWord_eq_false_of_isBlank hc]
  exact hBlanks.trans (.flatten_flatMap fun s _ => loses_words s)

/-! ### Leaves -/

/-- The character that a lexeme keeps as its sign. -/
def signOf (t : Text) : Option Char :=
  if t.length - ((words t).getLast?.getD []).length = 1 then t.getLast? else none

theorem leaves_word (t : Text) : (word t).leaves = t.map Leaf.classify := by
  rw [word, Node.leaves_composite, List.flatMap_map, List.map_eq_flatMap]
  rfl

theorem wordLeaves_word (t : Text) : (word t).wordLeaves = t.map Leaf.classify :=
  (Node.wordLeaves_word _).trans (leaves_word t)

/-- What is read off each word by itself is read off the text of all words. -/
theorem flatMap_words {f : Node → List Leaf} (hf : ∀ s, f (word s) = s.map Leaf.classify)
    (ws : List Text) : (ws.map word).flatMap f = ws.flatten.map Leaf.classify := by
  rw [List.flatMap_map, List.map_flatten, List.flatMap_def]
  simp only [hf]

theorem leaves_lexeme (t : Text) :
    (lexeme t).leaves = (words t).flatten.map Leaf.classify ++ (signOf t).toList.map Leaf.sign := by
  have hSigns (s : Text) : (s.map Node.sign).flatMap Node.leaves = s.map Leaf.sign := by
    rw [List.flatMap_map, List.map_eq_flatMap]
    rfl
  rw [lexeme, Node.leaves_composite, List.flatMap_append, flatMap_words leaves_word, signOf]
  split
  · rw [hSigns]
  · rfl

theorem wordLeaves_lexeme (t : Text) :
    (lexeme t).wordLeaves = (words t).flatten.map Leaf.classify := by
  -- a sign of a lexeme stands beside the words, not below one
  have hSigns (s : Text) : (s.map Node.sign).flatMap Node.wordLeaves = [] := by
    rw [List.flatMap_map, List.flatMap_eq_nil_iff]
    exact fun c _ => rfl
  rw [lexeme, Node.wordLeaves_composite (by decide), List.flatMap_append,
    flatMap_words wordLeaves_word]
  split
  · rw [hSigns, List.append_nil]
  · exact List.append_nil _

theorem leaves_document (t : Text) :
    (document paragraphBreak t).leaves = (lexemeTexts t).flatMap fun s => (lexeme s).leaves := by
  simp only [document, paragraph, sentence, lexemeTexts, Node.leaves_composite, List.flatMap_map,
    List.flatMap_assoc]

theorem render_document (t : Text) :
    (document paragraphBreak t).render = (lexemeTexts t).flatMap fun s => (lexeme s).render := by
  simp only [Node.render_eq_map_leaves, leaves_document, List.map_flatMap]

theorem wordLeaves_document (t : Text) :
    (document paragraphBreak t).wordLeaves =
      (lexemeTexts t).flatMap fun s => (lexeme s).wordLeaves := by
  have hSentence (s : Text) : (sentence s).wordLeaves =
      (splitLexemes s).flatMap fun u => (lexeme u).wordLeaves := by
    rw [sentence, Node.wordLeaves_composite (by decide), List.flatMap_map]
  have hParagraph (s : Text) : (paragraph s).wordLeaves =
      (splitSentences s).flatMap fun u => (sentence u).wordLeaves := by
    rw [paragraph, Node.wordLeaves_composite (by decide), List.flatMap_map]
  rw [document, Node.wordLeaves_composite (by decide), List.flatMap_map]
  simp only [hParagraph, hSentence, lexemeTexts, List.flatMap_assoc]

/-- The leaves below words are the words of the text. -/
theorem symbols_wordLeaves_document (t : Text) :
    (document paragraphBreak t).wordLeaves.map Leaf.symbol =
      ((lexemeTexts t).flatMap words).flatten := by
  rw [wordLeaves_document, List.map_flatMap, ← List.flatMap_id, List.flatMap_assoc]
  simp only [wordLeaves_lexeme, Leaf.map_symbol_map_classify, List.flatMap_id]

/-- The letters are the word characters in the words; a sign is no letter. -/
theorem letters_lexeme (t : Text) :
    (lexeme t).leaves.filterMap Leaf.letter? = (words t).flatten.filter isWordChar := by
  have hWord (s : Text) : (s.map Leaf.classify).filterMap Leaf.letter? = s.filter isWordChar := by
    rw [List.filterMap_map, ← List.filterMap_eq_filter]
    refine List.filterMap_congr fun c _ => ?_
    rw [Function.comp_apply, Leaf.letter?_classify]
    rfl
  have hSign (s : Text) : (s.map Leaf.sign).filterMap Leaf.letter? = [] := by
    rw [List.filterMap_map, List.filterMap_eq_nil_iff]
    exact fun c _ => rfl
  rw [leaves_lexeme, List.filterMap_append, hWord, hSign, List.append_nil]

/-- All characters that start a word stand below the words of the document, each once and in their
order, and the letters of the document are the word characters of the text. -/
theorem wordLeaves_and_letters_document (t : Text) :
    ((document paragraphBreak t).wordLeaves.map Leaf.symbol).filter startsWord =
        t.filter startsWord ∧
      (document paragraphBreak t).leaves.filterMap Leaf.letter? = t.filter isWordChar := by
  have hWords := loses_flatMap_words t
  constructor
  · rw [symbols_wordLeaves_document]
    exact hWords.filter_eq fun c hc => by simp [hc]
  · have hLetters : (document paragraphBreak t).leaves.filterMap Leaf.letter? =
        ((lexemeTexts t).flatMap words).flatten.filter isWordChar := by
      rw [leaves_document, List.filterMap_flatMap, ← List.flatMap_id, List.flatMap_assoc,
        List.filter_flatMap]
      simp only [letters_lexeme, List.flatMap_id]
    rw [hLetters]
    exact hWords.filter_eq fun c hc => by simp [startsWord_of_isWordChar hc]

end Prose.Parse
