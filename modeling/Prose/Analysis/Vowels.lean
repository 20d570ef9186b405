import Prose.Analysis.Order

/-!
# Vowels and consonants

A set of vowels holds ASCII letters in lowercase. Every other ASCII letter of a word is a consonant;
other characters are neither.
-/

namespace Prose

/-- The vowels in ascending order, each once. -/
structure VowelSet where
  letters : Text
  deriving DecidableEq, Repr

namespace VowelSet

/-- The ASCII letters of a text. -/
def ofText (t : Text) : VowelSet :=
  ⟨(((t.filter Char.isAlpha).map Char.toLower).mergeSort (· ≤ ·)).eraseReps⟩

/-- The vowels that hold when nothing else is said. -/
def standard : VowelSet :=
  ofText ['a', 'e', 'i', 'o', 'u', 'y']

def contains (v : VowelSet) (c : Char) : Bool :=
  v.letters.contains c.toLower

def size (v : VowelSet) : Nat :=
  v.letters.length

/-- The vowels with one space between neighbours. -/
def text (v : VowelSet) : Text :=
  v.letters.intersperse ' '

end VowelSet

/-- The letters of one sentence, counted. -/
structure LetterCounts where
  sentence : Node
  vowels : Nat
  consonants : Nat

namespace Node

/-- The character of a letter leaf. -/
def letter? : Node → Option Char
  | .leaf (.letter c) => some c
  | _ => none

/-- The ASCII letters in the words of a sentence. -/
def wordLetters (sentence : Node) : Text :=
  (sentence.words.flatMap fun w => w.children.filterMap letter?).filter Char.isAlpha

/-- The counts of every sentence in order. -/
def letterCounts (v : VowelSet) (t : Node) : List LetterCounts :=
  t.sentences.map fun sentence =>
    { sentence
      vowels := sentence.wordLetters.countP v.contains
      consonants := sentence.wordLetters.countP (!v.contains ·) }

end Node

end Prose
