import Prose.Parse.Lexeme

/-!
# Sentences and paragraphs

A sentence is cut into lexemes at the runs of blanks that stand before the start of a lexeme; other
blanks stay inside. A paragraph is cut into sentences after each run of terminal marks.
-/

namespace Prose.Parse

/-- Can a lexeme start with `c` after blanks? -/
def startsLexeme (c : Char) : Bool :=
  isWordChar c || c = '-' || c = '('

/-- The pieces of a sentence, of which only the first can be empty. -/
def lexemePieces : Text → List Text
  | [] => [[]]
  | c :: rest =>
    if isBlank c && ((rest.dropWhile isBlank).head?.any startsLexeme) then
      [] :: lexemePieces (rest.dropWhile isBlank)
    else Text.consFirst c (lexemePieces rest)
termination_by t => t.length
decreasing_by
  · have h := (List.dropWhile_sublist isBlank (l := rest)).length_le
    simp only [List.length_cons]
    omega
  · simp

/-- The lexemes of a sentence. -/
def splitLexemes (t : Text) : List Text :=
  (lexemePieces t).filter (!·.isEmpty)

def sentence (t : Text) : Node :=
  .composite .sentence ((splitLexemes t).map lexeme)

/-- The marks that end a sentence. -/
def isTerminal (c : Char) : Bool :=
  c = '.' || c = '!' || c = '?' || c = '…'

/-- The pieces of a paragraph, each up to the end of a run of terminal marks or of the text. -/
def sentencePieces : Text → List Text
  | [] => []
  | c :: rest =>
    let marked := (c :: rest).dropWhile (!isTerminal ·)
    ((c :: rest).takeWhile (!isTerminal ·) ++ marked.takeWhile isTerminal)
      :: sentencePieces (marked.dropWhile isTerminal)
termination_by t => t.length
decreasing_by
  have h₁ := (List.dropWhile_sublist isTerminal (l := rest)).length_le
  have h₂ := (List.dropWhile_sublist isTerminal
    (l := rest.dropWhile (!isTerminal ·))).length_le
  have h₃ := (List.dropWhile_sublist (!isTerminal ·) (l := rest)).length_le
  by_cases h : isTerminal c
  · simp [h]
    omega
  · simp [h]
    omega

/-- The sentences of a paragraph, without blanks at their ends. -/
def splitSentences (t : Text) : List Text :=
  ((sentencePieces t).map Text.trim).filter (!·.isEmpty)

def paragraph (t : Text) : Node :=
  .composite .paragraph ((splitSentences t).map sentence)

end Prose.Parse
