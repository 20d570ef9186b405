import Prose.Text.Lowercase
import Prose.Tree.Node

/-!
# Reordering trees

Three stable orders: paragraphs by their number of sentences, words by their number of letters, and
lexemes by how often they hold a symbol. All of them go by the depth of nodes below the root, so
they are defined for every tree.
-/

namespace Prose

/-- The order of texts by code points, a beginning before the whole. -/
def Text.le : Text → Text → Bool
  | [], _ => true
  | _ :: _, [] => false
  | a :: as, b :: bs => a < b || (a = b && Text.le as bs)

namespace Node

/-- The nodes two levels below the root. -/
def sentences (t : Node) : List Node :=
  t.children.flatMap children

/-- The nodes two levels below a sentence. -/
def parts (sentence : Node) : List Node :=
  sentence.children.flatMap children

/-- The words among the parts of a sentence. -/
def words (sentence : Node) : List Node :=
  sentence.parts.filter isWord

/-- The document with the children of every sentence replaced by `f` of the sentence. -/
def mapSentences (f : Node → List Node) (t : Node) : Node :=
  .composite .document (t.children.map fun paragraph =>
    .composite .paragraph (paragraph.children.map fun sentence =>
      .composite .sentence (f sentence)))

/-- Paragraphs with fewer sentences first. -/
def sortParagraphs (t : Node) : Node :=
  .composite .document (t.children.mergeSort fun p q => p.childCount ≤ q.childCount)

/-- Every sentence becomes its words, shorter ones first, followed by its other parts. -/
def sortWords (t : Node) : Node :=
  t.mapSentences fun sentence =>
    (sentence.words.mergeSort fun v w => v.letterCount ≤ w.letterCount)
      ++ sentence.parts.filter (!·.isWord)

/-- The text of a node in lowercase. -/
def foldedText (n : Node) : Text :=
  n.render.lower

/-- Fewer symbols first, and of equally many the later text first. -/
def symbolLe (symbol : Char) (l m : Node) : Bool :=
  l.count symbol < m.count symbol
    || (l.count symbol = m.count symbol && Text.le m.foldedText l.foldedText)

/-- Lexemes with more occurrences of the symbol first; of equally many the earlier text first, and
equal texts in reverse order. -/
def sortLexemes (symbol : Char) (t : Node) : Node :=
  t.mapSentences fun sentence => (sentence.children.mergeSort (symbolLe symbol)).reverse

end Node

end Prose
