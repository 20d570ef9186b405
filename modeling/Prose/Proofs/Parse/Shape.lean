import Prose.Proofs.Parse.Sign
import Prose.Proofs.Text.Trimming
import Prose.Proofs.Tree.Shape

/-!
# The shape of parsed documents

Every text is parsed into a tree of the shape of a document, whatever the delimiter
(`isDocument_document_and_leaves`). No level below the paragraphs is empty, because each stage hands
trimmed texts on and loses blanks only. No leaf is a blank, because no word holds one and a piece of
a trimmed sentence ends before a run of blanks or with the sentence, so the sign of a lexeme is
none.
-/

namespace Prose.Parse

open Text Node

/-! ### Words -/

theorem word_eq_map_classify (t : Text) :
    word t = .composite .word ((t.map Leaf.classify).map .leaf) := by
  rw [word, List.map_map]
  rfl

theorem isWord_iff {first : Char → Bool} {n : Node} : IsWord first n ↔
    ∃ c t, n = word (c :: t) ∧ first c ∧ ∀ d ∈ t, continuesWord d := by
  constructor
  · rintro (@⟨l, ls, hFirst, hLater, hClassified⟩)
    have hSame : ((l :: ls).map Leaf.symbol).map Leaf.classify = l :: ls := by
      rw [List.map_map]
      refine (List.map_congr_left fun k hk => ?_).trans (List.map_id _)
      exact (Leaf.isClassified_iff.1 (hClassified k hk)).symm
    refine ⟨l.symbol, ls.map Leaf.symbol, ?_, hFirst, ?_⟩
    · rw [word_eq_map_classify, ← List.map_cons, hSame]
    · intro d hd
      obtain ⟨k, hk, rfl⟩ := List.mem_map.1 hd
      exact hLater k hk
  · rintro ⟨c, t, rfl, hFirst, hLater⟩
    rw [word_eq_map_classify, List.map_cons]
    refine .mk (by simpa using hFirst) ?_ ?_
    · intro k hk
      obtain ⟨d, hd, rfl⟩ := List.mem_map.1 hk
      simpa using hLater d hd
    · intro k hk
      rw [← List.map_cons] at hk
      obtain ⟨d, -, rfl⟩ := List.mem_map.1 hk
      exact Leaf.isClassified_classify d

theorem lexeme_eq (t : Text) : lexeme t =
    .composite .lexeme ((words t).map word ++ (signOf t).toList.map sign) := by
  rw [lexeme, signOf]
  split <;> rfl

theorem isLexeme_lexeme (t : Text) : IsLexeme (lexeme t) := by
  rw [lexeme_eq]
  refine .mk fun w hw => ?_
  obtain ⟨s, hs, rfl⟩ := List.mem_map.1 hw
  obtain ⟨c, rest, rfl, hStarts, hContinues⟩ := exists_cons_of_mem_words hs
  exact isWord_iff.2 ⟨c, rest, rfl, hStarts, hContinues⟩

/-! ### Levels that are not empty -/

/-- Where only blanks are lost, something is left of a trimmed text. -/
theorem ne_nil_of_loses {t : Text} {pieces : List Text} (ht : IsTrimmed t)
    (h : Loses isBlank t pieces.flatten) : pieces ≠ [] := by
  rintro rfl
  obtain ⟨c, t, rfl⟩ := List.exists_cons_of_ne_nil ht.ne_nil
  have hFirst : isBlank c = false := ht.head c rfl
  have hKept := h.kept
  rw [List.filter_cons_of_pos (by simp [hFirst])] at hKept
  cases hKept

theorem isSentence_sentence {t : Text} (ht : IsTrimmed t) : IsSentence (sentence t) := by
  have hNe : splitLexemes t ≠ [] := ne_nil_of_loses ht (loses_splitLexemes t)
  refine .mk (by simpa using hNe) fun l hl => ?_
  obtain ⟨s, -, rfl⟩ := List.mem_map.1 hl
  exact isLexeme_lexeme s

theorem isTrimmed_of_mem_splitSentences {t s : Text} (h : s ∈ splitSentences t) : IsTrimmed s :=
  isTrimmed_of_mem_trimmed h

theorem isTrimmed_of_mem_splitParagraphs {delimiter : Pattern} {t s : Text}
    (h : s ∈ splitParagraphs delimiter t) : IsTrimmed s :=
  isTrimmed_of_mem_trimmed h

theorem isParagraph_paragraph {t : Text} (ht : IsTrimmed t) : IsParagraph (paragraph t) := by
  have hNe : splitSentences t ≠ [] := ne_nil_of_loses ht (loses_splitSentences t)
  refine .mk (by simpa using hNe) fun l hl => ?_
  obtain ⟨s, hs, rfl⟩ := List.mem_map.1 hl
  exact isSentence_sentence (isTrimmed_of_mem_splitSentences hs)

theorem isDocument_document (delimiter : Pattern) (t : Text) :
    IsDocument (document delimiter t) := by
  refine .mk fun p hp => ?_
  obtain ⟨s, hs, rfl⟩ := List.mem_map.1 hp
  exact isParagraph_paragraph (isTrimmed_of_mem_splitParagraphs hs)

/-! ### Blanks -/

theorem lexemePieces_ne_nil (t : Text) : lexemePieces t ≠ [] := by
  fun_induction lexemePieces t with
  | case1 => exact List.cons_ne_nil _ _
  | case2 c rest hCut ih => exact List.cons_ne_nil _ _
  | case3 c rest hKeep ih => cases lexemePieces rest <;> exact List.cons_ne_nil _ _

/-- The first piece is empty only before a cut or at the end. -/
theorem eq_nil_or_startsLexeme_of_head?_lexemePieces {t : Text}
    (h : (lexemePieces t).head? = some []) :
    t = [] ∨ (t.dropWhile isBlank).head?.any startsLexeme := by
  cases t with
  | nil => exact .inl rfl
  | cons c rest =>
    right
    by_cases hCut : isBlank c && (rest.dropWhile isBlank).head?.any startsLexeme
    · rw [Bool.and_eq_true] at hCut
      rw [List.dropWhile_cons_of_pos hCut.1]
      exact hCut.2
    · rw [lexemePieces, if_neg hCut] at h
      cases hRest : lexemePieces rest with
      | nil => exact absurd hRest (lexemePieces_ne_nil rest)
      | cons piece pieces =>
        rw [hRest] at h
        cases h

/-- A blank stands at the end of no piece, as a cut takes all blanks before it. -/
theorem isBlank_getLast?_of_mem_lexemePieces {t piece : Text}
    (ht : ∀ c ∈ t.getLast?, isBlank c = false) (h : piece ∈ lexemePieces t) :
    ∀ c ∈ piece.getLast?, isBlank c = false := by
  fun_induction lexemePieces t generalizing piece with
  | case1 =>
    obtain rfl := List.mem_singleton.1 h
    simp
  | case2 c rest hCut ih =>
    rcases List.mem_cons.1 h with rfl | h
    · simp
    · refine ih (fun d hd => ht d ?_) h
      rw [← List.takeWhile_append_dropWhile (p := isBlank) (l := rest), ← List.cons_append]
      exact List.mem_getLast?_append_of_mem_getLast? hd
  | case3 c rest hKeep ih =>
    have hRest : ∀ d ∈ rest.getLast?, isBlank d = false := by
      intro d hd
      rw [← List.singleton_append] at ht
      exact ht d (List.mem_getLast?_append_of_mem_getLast? hd)
    have ih : ∀ piece ∈ lexemePieces rest, ∀ d ∈ piece.getLast?, isBlank d = false :=
      fun _ hPiece => ih hRest hPiece
    cases hPieces : lexemePieces rest with
    | nil => exact absurd hPieces (lexemePieces_ne_nil rest)
    | cons first pieces =>
      rw [hPieces] at h ih
      rcases List.mem_cons.1 h with rfl | h
      · cases first with
        | nil =>
          -- `c` is the last character, or it stands before a cut and is no blank
          intro d hd
          obtain rfl : c = d := Option.some.inj hd
          rcases eq_nil_or_startsLexeme_of_head?_lexemePieces (by rw [hPieces]; rfl) with
            rfl | hStarts
          · exact ht c rfl
          · by_contra hBlank
            have hBlank : isBlank c = true := by simpa using hBlank
            exact hKeep (by rw [hBlank, hStarts]; rfl)
        | cons e first =>
          rw [List.getLast?_cons_cons]
          exact ih _ (List.mem_cons_self ..)
      · exact ih piece (List.mem_cons_of_mem _ h)

theorem isBlank_eq_false_of_continuesWord {c : Char} (h : continuesWord c) : isBlank c = false :=
  isBlank_eq_false (by decide) h

theorem isBlank_of_mem_leaves_lexeme {t : Text} (ht : ∀ c ∈ t.getLast?, isBlank c = false) :
    ∀ l ∈ (lexeme t).leaves, isBlank l.symbol = false := by
  intro l hl
  rw [leaves_lexeme, List.mem_append] at hl
  rcases hl with hl | hl
  · obtain ⟨c, hc, rfl⟩ := List.mem_map.1 hl
    obtain ⟨w, hw, hc⟩ := List.mem_flatten.1 hc
    rw [Leaf.symbol_classify]
    exact isBlank_eq_false_of_continuesWord (continuesWord_of_mem_words hw c hc)
  · obtain ⟨c, hc, rfl⟩ := List.mem_map.1 hl
    have hLast : c ∈ t.getLast? := by
      rw [signOf] at hc
      split at hc
      · exact Option.mem_toList.1 hc
      · cases hc
    exact ht c hLast

theorem forall_mem_leaves_composite {P : Leaf → Prop} {level : Level} {cs : List Node}
    (h : ∀ c ∈ cs, ∀ l ∈ c.leaves, P l) : ∀ l ∈ (composite level cs).leaves, P l := by
  intro l hl
  rw [leaves_composite] at hl
  obtain ⟨c, hc, hl⟩ := List.mem_flatMap.1 hl
  exact h c hc l hl

theorem isBlank_of_mem_leaves_sentence {t : Text} (ht : IsTrimmed t) :
    ∀ l ∈ (sentence t).leaves, isBlank l.symbol = false := by
  refine forall_mem_leaves_composite fun n hn => ?_
  obtain ⟨s, hs, rfl⟩ := List.mem_map.1 hn
  have hPiece : s ∈ lexemePieces t := (List.mem_filter.1 hs).1
  exact isBlank_of_mem_leaves_lexeme (isBlank_getLast?_of_mem_lexemePieces ht.last hPiece)

theorem isBlank_of_mem_leaves_document (delimiter : Pattern) (t : Text) :
    ∀ l ∈ (document delimiter t).leaves, isBlank l.symbol = false := by
  refine forall_mem_leaves_composite fun p hp => ?_
  obtain ⟨u, -, rfl⟩ := List.mem_map.1 hp
  refine forall_mem_leaves_composite fun n hn => ?_
  obtain ⟨s, hs, rfl⟩ := List.mem_map.1 hn
  exact isBlank_of_mem_leaves_sentence (isTrimmed_of_mem_splitSentences hs)

/-- Every text is parsed into the shape of a document, and no leaf of it is a blank. -/
theorem isDocument_document_and_leaves (delimiter : Pattern) (t : Text) :
    IsDocument (document delimiter t) ∧
      ∀ l ∈ (document delimiter t).leaves, isBlank l.symbol = false :=
  ⟨isDocument_document delimiter t, isBlank_of_mem_leaves_document delimiter t⟩

end Prose.Parse
