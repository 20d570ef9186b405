import Prose.Proofs.Parse.Delimiter

/-!
# Paragraphs

Cutting a text at a delimiter and trimming the pieces gives its paragraphs. When the delimiter
covers blanks only, the paragraphs can be told without any search for matches: two neighbouring
characters that are no blanks belong to different paragraphs exactly when a word of the delimiter
stands among the blanks between them. `paragraphTexts` reads them off in this way, and each
separation of the text comes to the same after trimming (`trimmed_eq_paragraphTexts`). So a break
between two texts may run together with the blanks around it (`splitParagraphs_append`).
-/

namespace Prose

namespace Parse

open Text

variable {L : Language Char}

/-- The paragraphs of a text, from its end to its start: a character that is no blank begins a new
paragraph when a word of `L` stands among the blanks behind it, and else it belongs to the paragraph
that follows. -/
def paragraphTexts (L : Language Char) [DecidablePred (Free L)] : Text → List Text
  | [] => []
  | c :: t =>
    if isBlank c then paragraphTexts L t
    else
      match paragraphTexts L t with
      | [] => [[c]]
      | p :: ps =>
        if Free L (t.takeWhile isBlank) then (c :: (t.takeWhile isBlank ++ p)) :: ps
        else [c] :: p :: ps

section

variable [DecidablePred (Free L)]

section Cons

variable {c : Char} {t p : Text} {ps : List Text}

theorem paragraphTexts_cons_of_isBlank (hc : isBlank c) (t : Text) :
    paragraphTexts L (c :: t) = paragraphTexts L t := by
  rw [paragraphTexts, if_pos hc]

theorem paragraphTexts_cons_last (hc : isBlank c = false) (ht : paragraphTexts L t = []) :
    paragraphTexts L (c :: t) = [[c]] := by
  rw [paragraphTexts, if_neg (by simp [hc]), ht]

theorem paragraphTexts_cons_join (hc : isBlank c = false) (ht : paragraphTexts L t = p :: ps)
    (hFree : Free L (t.takeWhile isBlank)) :
    paragraphTexts L (c :: t) = (c :: (t.takeWhile isBlank ++ p)) :: ps := by
  rw [paragraphTexts, if_neg (by simp [hc]), ht]
  exact if_pos hFree

theorem paragraphTexts_cons_cut (hc : isBlank c = false) (ht : paragraphTexts L t = p :: ps)
    (hBreak : ¬ Free L (t.takeWhile isBlank)) :
    paragraphTexts L (c :: t) = [c] :: p :: ps := by
  rw [paragraphTexts, if_neg (by simp [hc]), ht]
  exact if_neg hBreak

end Cons

theorem paragraphTexts_append_of_isBlank {b : Text} (h : ∀ c ∈ b, isBlank c) (t : Text) :
    paragraphTexts L (b ++ t) = paragraphTexts L t := by
  induction b with
  | nil => rfl
  | cons c b ih =>
    rw [List.forall_mem_cons] at h
    rw [List.cons_append, paragraphTexts_cons_of_isBlank h.1, ih h.2]

/-- A piece without a break in it is one paragraph or none, when a break or nothing follows. -/
theorem paragraphTexts_append {s t : Text} (hs : Free L s)
    (ht : paragraphTexts L t = [] ∨ ¬ Free L (t.takeWhile isBlank)) :
    paragraphTexts L (s ++ t) = trimmed [s] ++ paragraphTexts L t := by
  induction s with
  | nil => rfl
  | cons c s ih =>
    have hFree : Free L s := hs.of_infix (List.suffix_cons c s).isInfix
    have ih := ih hFree
    rw [List.cons_append]
    by_cases hBlank : isBlank c
    · rw [paragraphTexts_cons_of_isBlank hBlank, ih]
      simp only [trimmed, List.map_cons, trim_cons_of_isBlank hBlank]
    · have hBlank : isBlank c = false := by simpa using hBlank
      have hTrim : trim (c :: s) = c :: dropEnd isBlank s := trim_cons_of_not_isBlank hBlank s
      have hPiece : trimmed [c :: s] = [c :: dropEnd isBlank s] := by
        rw [← hTrim]
        exact trimmed_singleton_of_ne_nil (by simp [hTrim])
      rw [hPiece]
      by_cases hEmpty : trim s = []
      · -- up to the end of the piece there are blanks only, and a break follows if anything does
        have hBlanks : ∀ d ∈ s, isBlank d := trim_eq_nil_iff.1 hEmpty
        rw [trimmed_singleton_of_eq_nil hEmpty, List.nil_append] at ih
        rw [dropEnd_eq_nil hBlanks]
        cases hRest : paragraphTexts L t with
        | nil => exact paragraphTexts_cons_last hBlank (ih.trans hRest)
        | cons p ps =>
          refine paragraphTexts_cons_cut hBlank (ih.trans hRest) ?_
          rw [List.takeWhile_append_of_pos hBlanks]
          intro hAll
          have hBreak := ht.resolve_left (by simp [hRest])
          exact hBreak (hAll.of_infix (List.suffix_append s _).isInfix)
      · have hTake : (s ++ t).takeWhile isBlank = s.takeWhile isBlank := by
          rw [List.takeWhile_append, if_neg]
          intro hLength
          have hAll := (List.takeWhile_prefix isBlank).eq_of_length hLength
          exact hEmpty (trim_eq_nil_iff.2 (List.takeWhile_eq_self_iff.1 hAll))
        rw [trimmed_singleton_of_ne_nil hEmpty] at ih
        have hNoBreak : Free L ((s ++ t).takeWhile isBlank) := by
          rw [hTake]
          exact hFree.of_infix (List.takeWhile_prefix _).isInfix
        rw [paragraphTexts_cons_join hBlank ih hNoBreak, hTake, dropEnd_eq_append_trim hEmpty]
        rfl

/-- After trimming, each separation of a text at blanks comes to its paragraphs. -/
theorem trimmed_eq_paragraphTexts {t : Text} {pieces : List Text}
    (hBlank : ∀ w ∈ L, ∀ c ∈ w, isBlank c) (h : Separated L t pieces) :
    trimmed pieces = paragraphTexts L t := by
  induction h with
  | last hFree =>
    simpa [paragraphTexts] using (paragraphTexts_append hFree (t := []) (.inl rfl)).symm
  | @cut s w t pieces hFree hw _ ih =>
    have hBreak : ¬ Free L ((w ++ t).takeWhile isBlank) := by
      rw [List.takeWhile_append_of_pos (hBlank w hw)]
      exact fun hAll => hAll w hw (List.prefix_append w _).isInfix
    rw [trimmed_cons, ih, List.append_assoc, paragraphTexts_append hFree (.inr hBreak),
      paragraphTexts_append_of_isBlank (hBlank w hw)]

end

/-! ### Delimiters -/

section Delimiter

variable {delimiter : Pattern}

/-- The trimmed pieces of a text are its paragraphs, whichever matches are taken. -/
theorem splitParagraphs_eq_paragraphTexts (hPlain : delimiter.isPlain)
    (hBlank : delimiter.Consumes isBlank) (hNil : [] ∉ delimiter.language)
    [DecidablePred (Free delimiter.language)] (t : Text) :
    splitParagraphs delimiter t = paragraphTexts delimiter.language t :=
  trimmed_eq_paragraphTexts (fun _ hw => hBlank.of_mem_language hPlain hw)
    (Pattern.separated_split hPlain hNil t)

/-- A break between two texts cuts them apart, whatever blanks stand around it. -/
theorem splitParagraphs_append (hPlain : delimiter.isPlain) (hBlank : delimiter.Consumes isBlank)
    (hNil : [] ∉ delimiter.language) {w : Text} (hw : w ∈ delimiter.language) (s t : Text) :
    splitParagraphs delimiter (s ++ w ++ t) =
      splitParagraphs delimiter s ++ splitParagraphs delimiter t := by
  classical
  have hSeparated := (Pattern.separated_split hPlain hNil s).append hw
    (Pattern.separated_split hPlain hNil t)
  rw [splitParagraphs_eq_paragraphTexts hPlain hBlank hNil,
    ← trimmed_eq_paragraphTexts (fun _ hv => hBlank.of_mem_language hPlain hv) hSeparated,
    trimmed_append]
  rfl

end Delimiter

/-! ### The default delimiter -/

/-- The default delimiter matches in full exactly the breaks, and a break between two texts keeps
their paragraphs apart. -/
theorem matchesAll_iff_and_children_document_append (w : Text) :
    Pattern.ofText? defaultDelimiter = some paragraphBreak ∧
      (paragraphBreak.matchesAll w ↔ IsBreak w) ∧
      (paragraphBreak.matchesAll w → ∀ s t : Text,
        (document paragraphBreak (s ++ w ++ t)).children =
          (document paragraphBreak s).children ++ (document paragraphBreak t).children) := by
  refine ⟨ofText?_defaultDelimiter, matchesAll_paragraphBreak_iff, fun hMatches s t => ?_⟩
  have hw : w ∈ paragraphBreak.language :=
    (Pattern.matchesAll_iff_mem_language rfl w).1 hMatches
  have hParagraphs : splitParagraphs paragraphBreak (s ++ w ++ t) =
      splitParagraphs paragraphBreak s ++ splitParagraphs paragraphBreak t :=
    splitParagraphs_append rfl consumes_paragraphBreak nil_not_mem_language_paragraphBreak hw s t
  show (splitParagraphs paragraphBreak (s ++ w ++ t)).map paragraph = _
  rw [hParagraphs, List.map_append]
  rfl

/-- The tab is swallowed by an empty line that begins in the one text and ends in the other. -/
theorem children_document_append_swallowed_tab :
    paragraphBreak.matchesAll ['\t'] ∧
      paragraphBreak.split ("One.\n".toList ++ ['\t'] ++ "\nTwo.".toList) =
        ["One.".toList, "Two.".toList] ∧
      (document paragraphBreak ("One.\n".toList ++ ['\t'] ++ "\nTwo.".toList)).children =
        (document paragraphBreak "One.\n".toList).children ++
          (document paragraphBreak "\nTwo.".toList).children := by
  have hTab : paragraphBreak.matchesAll ['\t'] := by decide
  obtain ⟨-, -, hAppend⟩ := matchesAll_iff_and_children_document_append ['\t']
  exact ⟨hTab, by cbv, hAppend hTab _ _⟩

end Parse

end Prose
