import Prose.Parse.Lexeme
import Prose.Proofs.Tree.Leaves

/-!
# The shape of a document

Which levels stand below which: a document of paragraphs, a paragraph of sentences and a sentence of
lexemes, the last two not empty, a lexeme of words and at most one sign behind them, and a word of
leaves.
-/

namespace Prose

namespace Leaf

/-- A letter for a word character and a sign for any other. -/
def IsClassified (l : Leaf) : Prop :=
  l.kind = .letter ↔ isWordChar l.symbol

theorem isClassified_iff {l : Leaf} : l.IsClassified ↔ l = classify l.symbol := by
  cases l with
  | sign c => by_cases hc : isWordChar c <;> simp [IsClassified, classify, kind, symbol, hc]
  | letter c => by_cases hc : isWordChar c <;> simp [IsClassified, classify, kind, symbol, hc]

theorem isClassified_classify (c : Char) : (classify c).IsClassified := by
  rw [isClassified_iff, symbol_classify]

end Leaf

namespace Node

open Parse (startsWord continuesWord)

/-- A word whose first character satisfies `first`. -/
inductive IsWord (first : Char → Bool) : Node → Prop
  | mk {l : Leaf} {ls : List Leaf} : first l.symbol → (∀ k ∈ ls, continuesWord k.symbol) →
      (∀ k ∈ l :: ls, k.IsClassified) → IsWord first (.composite .word ((l :: ls).map .leaf))

/-- Any words, and at most one sign behind them. -/
inductive IsLexeme : Node → Prop
  | mk {words : List Node} {mark : Option Char} : (∀ w ∈ words, IsWord startsWord w) →
      IsLexeme (.composite .lexeme (words ++ mark.toList.map sign))

inductive IsSentence : Node → Prop
  | mk {lexemes : List Node} : lexemes ≠ [] → (∀ l ∈ lexemes, IsLexeme l) →
      IsSentence (.composite .sentence lexemes)

inductive IsParagraph : Node → Prop
  | mk {sentences : List Node} : sentences ≠ [] → (∀ s ∈ sentences, IsSentence s) →
      IsParagraph (.composite .paragraph sentences)

inductive IsDocument : Node → Prop
  | mk {paragraphs : List Node} : (∀ p ∈ paragraphs, IsParagraph p) →
      IsDocument (.composite .document paragraphs)

end Node

end Prose
