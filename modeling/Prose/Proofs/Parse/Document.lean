import Prose.Proofs.Parse.Delimiter
import Prose.Proofs.Parse.Lexeme
import Prose.Proofs.Parse.Sentence
import Prose.Proofs.Text.Decimal

/-!
# Lines

A line of parts without blanks, joined by single spaces, is one sentence of these parts
(`layout_document_join`). A numeral among the parts is laid out as it was written when it is not
negative; a minus sign is dropped, and the last digit follows a second time in its place.
-/

namespace Prose.Parse

open Text

/-! ### Lines of parts -/

/-- A part of a line starts a lexeme and has neither blanks nor terminal marks. -/
def IsPart (part : Text) : Prop :=
  (∃ c ∈ part.head?, startsLexeme c) ∧ ∀ c ∈ part, isBlank c = false ∧ isTerminal c = false

theorem IsPart.ne_nil {part : Text} (h : IsPart part) : part ≠ [] := by
  obtain ⟨⟨c, hc, -⟩, -⟩ := h
  rintro rfl
  cases hc

theorem IsPart.isTrimmed {part : Text} (h : IsPart part) : IsTrimmed part :=
  isTrimmed_of_forall h.ne_nil fun c hc => (h.2 c hc).1

section Lines

variable {parts : List Text}

theorem eq_space_or_of_mem_join (h : ∀ part ∈ parts, IsPart part) :
    ∀ c ∈ join [' '] parts, c = ' ' ∨ isBlank c = false ∧ isTerminal c = false := by
  intro c hc
  rcases mem_join hc with hc | ⟨part, hPart, hc⟩
  · exact .inl (List.mem_singleton.1 hc)
  · exact .inr ((h part hPart).2 c hc)

theorem not_two_spaces_join (h : ∀ part ∈ parts, IsPart part) :
    ¬ [' ', ' '] <:+: join [' '] parts := by
  have hSpace : ∀ part ∈ parts, ' ' ∉ part := by
    intro part hPart hMem
    cases ((h part hPart).2 ' ' hMem).1
  induction parts with
  | nil => simp [join]
  | cons part parts ih =>
    rw [List.forall_mem_cons] at h hSpace
    cases parts with
    | nil =>
      rw [join_singleton]
      exact fun hInfix => hSpace.1 (hInfix.mem (by simp))
    | cons part' parts =>
      have hPart' : IsPart part' := h.2 part' (by simp)
      rw [join_cons_cons, List.append_assoc, List.singleton_append]
      refine not_two_spaces_append hSpace.1 ?_ (ih h.2 hSpace.2)
      rw [head?_join_of_ne_nil hPart'.ne_nil]
      exact fun hHead => hSpace.2 part' (by simp) (List.mem_of_head? hHead)

theorem isTrimmed_join_of_isPart (hNe : parts ≠ []) (h : ∀ part ∈ parts, IsPart part) :
    IsTrimmed (join [' '] parts) :=
  isTrimmed_join [' '] hNe fun part hPart => (h part hPart).isTrimmed

theorem splitParagraphs_join (hNe : parts ≠ []) (h : ∀ part ∈ parts, IsPart part) :
    splitParagraphs paragraphBreak (join [' '] parts) = [join [' '] parts] := by
  have hChars : ∀ c ∈ join [' '] parts, c ≠ '\n' ∧ c ≠ '\t' := by
    intro c hc
    rcases eq_space_or_of_mem_join h c hc with rfl | ⟨hBlank, -⟩
    · decide
    · refine ⟨?_, ?_⟩ <;> rintro rfl <;> cases hBlank
  have hIndent : ¬ List.replicate 4 ' ' <:+: join [' '] parts := by
    intro hInfix
    have hTwo : [' ', ' '] <:+: List.replicate 4 ' ' := ⟨[], [' ', ' '], rfl⟩
    exact not_two_spaces_join h (hTwo.trans hInfix)
  have hFree : Free paragraphBreak.language (join [' '] parts) := free_paragraphBreak hChars hIndent
  show trimmed (paragraphBreak.split (join [' '] parts)) = _
  rw [Pattern.split_eq_singleton rfl hFree]
  exact trimmed_eq_self (by simpa using isTrimmed_join_of_isPart hNe h)

/-- A line of parts is one sentence with these parts as its lexemes. -/
theorem document_join (hNe : parts ≠ []) (h : ∀ part ∈ parts, IsPart part) :
    document paragraphBreak (join [' '] parts) =
      .composite .document [.composite .paragraph [.composite .sentence (parts.map lexeme)]] := by
  have hTerminal : ∀ c ∈ join [' '] parts, isTerminal c = false := by
    intro c hc
    rcases eq_space_or_of_mem_join h c hc with rfl | ⟨-, hTerminal⟩
    · rfl
    · exact hTerminal
  have hLexemes : splitLexemes (join [' '] parts) = parts :=
    splitLexemes_join (fun part hPart c hc => ((h part hPart).2 c hc).1)
      fun part hPart => (h part hPart).1
  rw [document, splitParagraphs_join hNe h, List.map_singleton, paragraph,
    splitSentences_eq_singleton (isTrimmed_join_of_isPart hNe h) hTerminal,
    List.map_singleton, sentence, hLexemes]

theorem layout_document_join (hNe : parts ≠ []) (h : ∀ part ∈ parts, IsPart part) :
    (document paragraphBreak (join [' '] parts)).layout =
      join [' '] (parts.map fun part => (lexeme part).layout) := by
  rw [document_join hNe h]
  simp only [Node.layout, Node.layoutAll_eq_map, List.map_cons, List.map_nil, join_singleton,
    List.map_map, Function.comp_def]

end Lines

/-! ### Parts with letters and digits -/

theorem isPart_of_all_isWordChar {part : Text} (hNe : part ≠ [])
    (h : ∀ c ∈ part, isWordChar c) : IsPart part := by
  obtain ⟨c, part, rfl⟩ := List.exists_cons_of_ne_nil hNe
  refine ⟨⟨c, rfl, by simp [startsLexeme, h c]⟩, fun d hd => ⟨?_, ?_⟩⟩
  · exact isBlank_eq_false_of_startsLexeme (by simp [startsLexeme, h d hd])
  · have hStarts : startsWord d := startsWord_of_isWordChar (h d hd)
    exact isTerminal_eq_false_of_continuesWord (continuesWord_of_startsWord hStarts)

theorem IsPart.cons_hyphen {part : Text} (h : IsPart part) : IsPart ('-' :: part) := by
  refine ⟨⟨'-', rfl, rfl⟩, ?_⟩
  rw [List.forall_mem_cons]
  exact ⟨⟨rfl, rfl⟩, h.2⟩

theorem words_of_all_isWordChar {part : Text} (hNe : part ≠ [])
    (h : ∀ c ∈ part, isWordChar c) : words part = [part] := by
  obtain ⟨c, part, rfl⟩ := List.exists_cons_of_ne_nil hNe
  have hStarts : ∀ d ∈ c :: part, startsWord d := fun d hd => startsWord_of_isWordChar (h d hd)
  exact words_eq_singleton ⟨c, rfl, hStarts c (List.mem_cons_self ..)⟩
    fun d hd => continuesWord_of_startsWord (hStarts d hd)

theorem isWordChar_of_mem_ofNat {n : Nat} : ∀ c ∈ Decimal.ofNat n, isWordChar c := by
  intro c hc
  have hDigit : c.isDigit := Decimal.isDigit_of_mem_ofNat hc
  simp [isWordChar, Char.isAlphanum, hDigit]

theorem isPart_ofInt (i : Int) : IsPart (Decimal.ofInt i) := by
  have hDigits : IsPart (Decimal.ofNat i.natAbs) :=
    isPart_of_all_isWordChar (Decimal.ofNat_ne_nil _) isWordChar_of_mem_ofNat
  rcases Int.lt_or_le i 0 with hNeg | hNonneg
  · rw [Decimal.ofInt_of_neg hNeg]
    exact hDigits.cons_hyphen
  · rwa [Decimal.ofInt_of_nonneg hNonneg]

theorem words_ofNat (n : Nat) : words (Decimal.ofNat n) = [Decimal.ofNat n] :=
  words_of_all_isWordChar (Decimal.ofNat_ne_nil n) isWordChar_of_mem_ofNat

theorem layout_lexeme_ofInt_of_nonneg {i : Int} (h : 0 ≤ i) :
    (lexeme (Decimal.ofInt i)).layout = Decimal.ofInt i := by
  rw [Decimal.ofInt_of_nonneg h, layout_lexeme_of_words (words_ofNat _)]

/-- The minus sign of a negative numeral is dropped and the last digit doubled. -/
theorem exists_layout_lexeme_ofInt_of_neg {i : Int} (h : i < 0) :
    ∃ ds d, Decimal.ofInt i = '-' :: (ds ++ [d]) ∧ (∀ c ∈ ds ++ [d], c.isDigit) ∧
      (lexeme (Decimal.ofInt i)).layout = ds ++ [d, d] := by
  rcases List.eq_nil_or_concat (Decimal.ofNat i.natAbs) with hNil | ⟨ds, d, hDigits⟩
  · exact absurd hNil (Decimal.ofNat_ne_nil _)
  · rw [List.concat_eq_append] at hDigits
    refine ⟨ds, d, by rw [Decimal.ofInt_of_neg h, hDigits], fun c hc => ?_, ?_⟩
    · rw [← hDigits] at hc
      exact Decimal.isDigit_of_mem_ofNat hc
    · rw [Decimal.ofInt_of_neg h, layout_lexeme_cons (by decide) (words_ofNat _), hDigits,
        ← List.cons_append, List.getLast?_concat]
      simp

end Prose.Parse
