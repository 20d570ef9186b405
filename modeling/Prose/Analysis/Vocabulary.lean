import Prose.Analysis.Order

/-!
# Words of a document

The sentences with the longest word, the sentences with enough words, and the words that occur more
than once.
-/

namespace Prose.Node

/-- The letter count of the longest word, when there is a word. -/
def longestWord? (t : Node) : Option Nat :=
  (t.sentences.flatMap fun sentence => sentence.words.map letterCount).max?

/-- The sentences that have a word of the greatest letter count. -/
def longestSentences (t : Node) : List Node :=
  match t.longestWord? with
  | some longest =>
    t.sentences.filter fun sentence => sentence.words.any (·.letterCount = longest)
  | none => []

/-- The document without the sentences of fewer than `least` words and without paragraphs that lose
all their sentences. -/
def dropShortSentences (least : Nat) (t : Node) : Node :=
  .composite .document (t.children.filterMap fun paragraph =>
    match paragraph.children.filter fun sentence => least ≤ sentence.words.length with
    | [] => none
    | kept => some (.composite .paragraph kept))

/-- The lowercase texts of all words in order. -/
def vocabulary (t : Node) : List Text :=
  t.sentences.flatMap fun sentence => sentence.words.map foldedText

/-- The words that occur more than once, in ascending order, with the number of occurrences. -/
def duplicates (t : Node) : List (Text × Nat) :=
  (((t.vocabulary.mergeSort Text.le).eraseReps).map fun w => (w, t.vocabulary.count w)).filter
    (1 < ·.2)

end Prose.Node
