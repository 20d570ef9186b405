import Prose.Pattern.Reader
import Prose.Proofs.Parse.Conservation
import Prose.Proofs.Parse.Sentence
import Prose.Proofs.Pattern.Found

/-!
# The tiling of a paragraph

A paragraph is tiled when it is cut behind each run of terminal marks and nowhere else. There is one
tiling, and the pieces of a paragraph are its tiles (`Tiles.sentencePieces_eq`). They are also what
the pattern of a sentence finds (`foundFrom_upToMarks`). Only in an empty paragraph it finds an
empty piece too, which is left out after trimming. So the sentences of a paragraph are its tiles
without the blanks at their ends (`splitSentences_tiles_and_append`).
-/

namespace Prose.Parse

open Text

/-! ### The first piece -/

/-- A text up to the end of its first run of terminal marks. -/
def firstPiece (t : Text) : Text :=
  t.takeWhile (!isTerminal ·) ++ (t.dropWhile (!isTerminal ·)).takeWhile isTerminal

/-- A text behind its first run of terminal marks. -/
def behindFirst (t : Text) : Text :=
  (t.dropWhile (!isTerminal ·)).dropWhile isTerminal

theorem firstPiece_append_behindFirst (t : Text) : firstPiece t ++ behindFirst t = t := by
  rw [firstPiece, behindFirst, List.append_assoc, List.takeWhile_append_dropWhile,
    List.takeWhile_append_dropWhile]

/-- What stops the scan for the first mark is a mark. -/
theorem isTerminal_of_dropWhile_eq_cons {t rest : Text} {c : Char}
    (h : t.dropWhile (!isTerminal ·) = c :: rest) : isTerminal c := by
  have hStop : c ∈ (t.dropWhile (!isTerminal ·)).head? := by
    rw [h]
    rfl
  simpa using of_mem_head?_dropWhile hStop

theorem MarksAtEnd.ne_nil {t : Text} (h : MarksAtEnd true t) : t ≠ [] := by
  obtain ⟨s, marks, rfl, -, -, hNe⟩ := h.exists_marks
  exact List.append_ne_nil_of_right_ne_nil s hNe

/-- The first piece is all of a text without marks, and else it ends in marks. -/
theorem firstPiece_cases (t : Text) :
    (MarksAtEnd false t ∧ firstPiece t = t ∧ behindFirst t = []) ∨
      MarksAtEnd true (firstPiece t) := by
  have hBefore : ∀ c ∈ t.takeWhile (!isTerminal ·), isTerminal c = false :=
    fun c hc => by simpa using List.mem_takeWhile_imp hc
  cases hMarked : t.dropWhile (!isTerminal ·) with
  | nil =>
    have hAll : t.takeWhile (!isTerminal ·) = t := by
      have hText := List.takeWhile_append_dropWhile (p := (!isTerminal ·)) (l := t)
      rwa [hMarked, List.append_nil] at hText
    rw [hAll] at hBefore
    refine .inl ⟨marksAtEnd_of_forall hBefore, ?_, ?_⟩
    · rw [firstPiece, hMarked, hAll, List.takeWhile_nil, List.append_nil]
    · rw [behindFirst, hMarked, List.dropWhile_nil]
  | cons d marks =>
    have hd : isTerminal d := isTerminal_of_dropWhile_eq_cons hMarked
    have hMarks : ∀ c ∈ (d :: marks).takeWhile isTerminal, isTerminal c :=
      fun c hc => List.mem_takeWhile_imp hc
    rw [firstPiece, hMarked]
    exact .inr ⟨_, _, rfl, hBefore, hMarks, by simp [hd]⟩

theorem firstPiece_ne_nil {t : Text} (h : t ≠ []) : firstPiece t ≠ [] := by
  rcases firstPiece_cases t with ⟨-, hAll, -⟩ | hClosed
  · rwa [hAll]
  · exact hClosed.ne_nil

theorem sentencePieces_of_ne_nil {t : Text} (h : t ≠ []) :
    sentencePieces t = firstPiece t :: sentencePieces (behindFirst t) := by
  obtain ⟨c, rest, rfl⟩ := List.exists_cons_of_ne_nil h
  rw [sentencePieces]
  rfl

/-! ### Tilings -/

/-- The pieces of a text, each behind the last up to the end of a run of terminal marks. Only behind
the last piece there may be no mark. -/
inductive Tiles : Text → List Text → Prop
  | nil : Tiles [] []
  | rest {piece : Text} : piece ≠ [] → MarksAtEnd false piece → Tiles piece [piece]
  | cut {piece t : Text} {pieces : List Text} : MarksAtEnd true piece →
      (∀ c ∈ t.head?, isTerminal c = false) → Tiles t pieces → Tiles (piece ++ t) (piece :: pieces)

theorem tiles_sentencePieces (t : Text) : Tiles t (sentencePieces t) := by
  fun_induction sentencePieces t with
  | case1 => exact .nil
  | case2 c rest marked ih =>
    have ih : Tiles (behindFirst (c :: rest)) (sentencePieces (behindFirst (c :: rest))) := ih
    show Tiles (c :: rest) (firstPiece (c :: rest) :: sentencePieces (behindFirst (c :: rest)))
    rcases firstPiece_cases (c :: rest) with ⟨hOpen, hAll, hNone⟩ | hClosed
    · rw [hAll, hNone, sentencePieces]
      exact .rest (List.cons_ne_nil c rest) hOpen
    · have hStop : ∀ d ∈ (behindFirst (c :: rest)).head?, isTerminal d = false :=
        fun d hd => of_mem_head?_dropWhile hd
      have hCut := Tiles.cut hClosed hStop ih
      rwa [firstPiece_append_behindFirst] at hCut

namespace Tiles

variable {s t : Text} {pieces pieces' : List Text}

/-- A text has no other tiling than its pieces. -/
theorem sentencePieces_eq (h : Tiles t pieces) : sentencePieces t = pieces := by
  induction h with
  | nil => rw [sentencePieces]
  | rest hNe hOpen => exact hOpen.sentencePieces_eq hNe
  | cut hClosed hStop _ ih => rw [hClosed.sentencePieces_append_of_head? hStop, ih]

/-- Tilings of two texts are one tiling, unless a run of marks would go on from the first text to
the second. -/
theorem append (hs : Tiles s pieces) (hEnd : ∀ c ∈ s.getLast?, isTerminal c)
    (hStart : ∀ c ∈ t.head?, isTerminal c = false) (ht : Tiles t pieces') :
    Tiles (s ++ t) (pieces ++ pieces') := by
  induction hs with
  | nil => exact ht
  | @rest piece hNe hOpen =>
    have hLast : piece.getLast hNe ∈ piece.getLast? := List.getLast?_eq_some_getLast hNe
    have hMark := hEnd _ hLast
    rw [hOpen.isTerminal_eq_false _ (List.getLast_mem hNe)] at hMark
    cases hMark
  | @cut piece u pieces hClosed hStop hTiles ih =>
    rw [List.append_assoc, List.cons_append]
    refine .cut hClosed ?_ (ih fun c hc => hEnd c ?_)
    · intro c hc
      rw [List.head?_append] at hc
      rcases Option.or_eq_some_iff.1 hc with hc | ⟨-, hc⟩
      · exact hStop c hc
      · exact hStart c hc
    · exact List.mem_getLast?_append_of_mem_getLast? hc

end Tiles

/-! ### Trimming -/

theorem isBlank_eq_false_of_isTerminal {c : Char} (h : isTerminal c) : isBlank c = false :=
  isBlank_eq_false (by decide) h

/-- The marks at the end are no blanks, so trimming leaves them there. -/
theorem MarksAtEnd.trim {closed : Bool} {t : Text} (h : MarksAtEnd closed t) :
    MarksAtEnd closed (trim t) := by
  cases closed with
  | false =>
    exact marksAtEnd_of_forall fun c hc => h.isTerminal_eq_false c ((trim_sublist t).mem hc)
  | true =>
    obtain ⟨s, marks, rfl, hs, hMarks, hNe⟩ := h.exists_marks
    have hTrim : Text.trim (s ++ marks) = s.dropWhile isBlank ++ marks := by
      obtain ⟨c, rest, rfl⟩ := List.exists_cons_of_ne_nil hNe
      have hc : isBlank c = false :=
        isBlank_eq_false_of_isTerminal (hMarks c List.mem_cons_self)
      rw [Text.trim, trimBy, dropWhile_append_cons_of_neg hc]
      refine dropEnd_eq_self fun d hd => isBlank_eq_false_of_isTerminal (hMarks d ?_)
      rw [List.getLast?_append_of_ne_nil _ hNe] at hd
      exact List.mem_of_getLast? hd
    rw [hTrim]
    have hBefore : ∀ c ∈ s.dropWhile isBlank, isTerminal c = false :=
      fun c hc => hs c ((List.dropWhile_sublist isBlank).mem hc)
    exact ⟨_, marks, rfl, hBefore, hMarks, by simp [hNe]⟩

/-- Trimming leaves out no tile but the last, and so every sentence but the last ends in marks. -/
theorem Tiles.marksAtEnd_trimmed {t : Text} {pieces : List Text} (h : Tiles t pieces) :
    (∀ s ∈ trimmed pieces, ∃ closed, MarksAtEnd closed s) ∧
      ∀ s ∈ (trimmed pieces).dropLast, MarksAtEnd true s := by
  induction h with
  | nil => exact ⟨by simp [trimmed], by simp [trimmed]⟩
  | @rest piece _ hOpen =>
    by_cases hNil : trim piece = []
    · rw [trimmed_singleton_of_eq_nil hNil]
      exact ⟨by simp, by simp⟩
    · rw [trimmed_singleton_of_ne_nil hNil]
      exact ⟨List.forall_mem_singleton.2 ⟨false, hOpen.trim⟩, by simp⟩
  | @cut piece t pieces hClosed _ _ ih =>
    have hFirst : trimmed (piece :: pieces) = trim piece :: trimmed pieces := by
      rw [trimmed_cons, trimmed_singleton_of_ne_nil hClosed.trim.ne_nil]
      rfl
    rw [hFirst]
    refine ⟨List.forall_mem_cons.2 ⟨⟨true, hClosed.trim⟩, ih.1⟩, ?_⟩
    cases hRest : trimmed pieces with
    | nil => simp
    | cons s sentences =>
      rw [List.dropLast_cons_cons, List.forall_mem_cons, ← hRest]
      exact ⟨hClosed.trim, ih.2⟩

/-! ### The pattern of a sentence -/

/-- What is no terminal mark, and then a run of terminal marks or the end of the text. -/
def upToMarks : Pattern :=
  .cat (.times (.one (!isTerminal ·)) 0 none true)
    (.alt (.times (.one isTerminal) 1 none true) (.look Pattern.Assertion.textEnd))

theorem ofText?_upToMarks : Pattern.ofText? "[^.!?…]*(?:[.!?…]+|$)".toList = some upToMarks :=
  rfl

/-- At every place there is a match, and it goes to the end of the next run of marks. -/
theorem exists_matchEnd?_upToMarks (p : Place) :
    ∃ q, upToMarks.matchEnd? p = some q ∧ p.Spans (firstPiece p.rest) q := by
  obtain ⟨m, hm, hBefore⟩ := Pattern.exists_matchEnd?_optional_run (!isTerminal ·) p
  have hBehind : m.rest = p.rest.dropWhile (!isTerminal ·) := by
    refine List.append_cancel_left (hBefore.rest.symm.trans ?_)
    exact List.takeWhile_append_dropWhile.symm
  cases hRest : m.rest with
  | nil =>
    have hNone : (Pattern.times (.one isTerminal) 1 none true).matchEnd? m = none :=
      Pattern.matchEnd?_run_eq_none (by simp [hRest])
    have hEnd : (Pattern.look Pattern.Assertion.textEnd).matchEnd? m = some m := by
      rw [Pattern.matchEnd?, Pattern.ends, hRest]
      rfl
    refine ⟨m, Pattern.matchEnd?_cat hm ?_, ?_⟩
    · rw [Pattern.matchEnd?_alt_right hNone, hEnd]
    · rw [firstPiece, ← hBehind, hRest, List.takeWhile_nil, List.append_nil]
      exact hBefore
  | cons c rest =>
    have hc : isTerminal c := isTerminal_of_dropWhile_eq_cons (hBehind.symm.trans hRest)
    obtain ⟨q, hq, hMarks⟩ := Pattern.exists_matchEnd?_run hRest hc
    rw [hBehind] at hMarks
    exact ⟨q, Pattern.matchEnd?_cat hm (Pattern.matchEnd?_alt_left hq), hBefore.trans hMarks⟩

/-- Behind a match the pattern finds the pieces of what is left. -/
theorem foundFrom_upToMarks {p : Place} {behindMatch : Bool}
    (h : p.rest ≠ [] ∨ behindMatch = true) :
    upToMarks.foundFrom p behindMatch = sentencePieces p.rest := by
  induction hLength : p.rest.length using Nat.strong_induction_on generalizing p behindMatch with
  | _ n ih =>
    by_cases hNil : p.rest = []
    · obtain rfl : behindMatch = true := h.resolve_left (fun hNe => hNe hNil)
      rw [Pattern.foundFrom_behind_match hNil, hNil, sentencePieces]
    · obtain ⟨q, hq, hSpans⟩ := exists_matchEnd?_upToMarks p
      have hNe : firstPiece p.rest ≠ [] := firstPiece_ne_nil hNil
      have hRest : q.rest = behindFirst p.rest := by
        refine List.append_cancel_left (hSpans.rest.symm.trans ?_)
        exact (firstPiece_append_behindFirst p.rest).symm
      have hShorter : q.rest.length < n := by
        have hPos := List.length_pos_of_ne_nil hNe
        have hSum := congrArg List.length hSpans.rest
        rw [List.length_append] at hSum
        omega
      rw [Pattern.foundFrom_eq_cons hq hSpans hNe, ih _ hShorter (.inr rfl) rfl, hRest,
        sentencePieces_of_ne_nil hNil]

/-- The matches of the pattern are the pieces of a paragraph, but for an empty one in an empty
paragraph. -/
theorem trimmed_found_upToMarks (t : Text) : trimmed (upToMarks.found t) = splitSentences t := by
  show trimmed (upToMarks.found t) = trimmed (sentencePieces t)
  by_cases hNil : t = []
  · subst hNil
    have hNone : trimmed [[]] = [] := trimmed_singleton_of_eq_nil rfl
    rw [Pattern.found, Pattern.foundFrom, sentencePieces]
    show trimmed (if _ then [[]] else []) = trimmed []
    split
    · exact hNone
    · rfl
  · rw [Pattern.found, foundFrom_upToMarks (.inl hNil)]
    rfl

/-! ### The sentences of a paragraph -/

/-- The sentences of a paragraph are what its pattern finds, without the blanks at the ends. None is
empty or has blanks at its ends, and together they lack only blanks of the paragraph. In each of
them all terminal marks stand at the end, and there are some in all but the last. Where a run of
marks has ended between two texts, the sentences of both are those of the one behind the other. -/
theorem splitSentences_tiles_and_append (t : Text) :
    (Pattern.ofText? "[^.!?…]*(?:[.!?…]+|$)".toList = some upToMarks ∧
      splitSentences t = trimmed (upToMarks.found t)) ∧
    (∀ s ∈ splitSentences t, IsTrimmed s) ∧
    (splitSentences t).flatMap (·.filter (!isBlank ·)) = t.filter (!isBlank ·) ∧
    (∀ s ∈ splitSentences t, ∃ closed, MarksAtEnd closed s) ∧
    (∀ s ∈ (splitSentences t).dropLast, MarksAtEnd true s) ∧
    ∀ q : Text, (∀ c ∈ t.getLast?, isTerminal c) → (∀ c ∈ q.head?, isTerminal c = false) →
      splitSentences (t ++ q) = splitSentences t ++ splitSentences q := by
  have hTiles := tiles_sentencePieces t
  have hTrimmed : ∀ s ∈ splitSentences t, IsTrimmed s := fun s hs => isTrimmed_of_mem_trimmed hs
  obtain ⟨hMarks, hClosed⟩ := hTiles.marksAtEnd_trimmed
  refine ⟨⟨ofText?_upToMarks, (trimmed_found_upToMarks t).symm⟩, hTrimmed, ?_, hMarks, hClosed, ?_⟩
  · rw [← (loses_splitSentences t).kept, List.filter_flatten, List.flatMap_def]
  · intro q hEnd hStart
    have hBoth := hTiles.append hEnd hStart (tiles_sentencePieces q)
    show trimmed (sentencePieces (t ++ q)) = _
    rw [hBoth.sentencePieces_eq, trimmed_append]
    rfl

/-- The run of marks ends with the first text, and the last sentence has no mark. -/
theorem splitSentences_of_two_texts :
    (∀ c ∈ " It is 14. Really?!".toList.getLast?, isTerminal c) ∧
      (∀ c ∈ " Yes… and then\n".toList.head?, isTerminal c = false) ∧
      splitSentences " It is 14. Really?!".toList = ["It is 14.".toList, "Really?!".toList] ∧
      splitSentences (" It is 14. Really?!".toList ++ " Yes… and then\n".toList) =
        ["It is 14.".toList, "Really?!".toList, "Yes…".toList, "and then".toList] ∧
      IsTrimmed "Really?!".toList ∧ (∃ closed, MarksAtEnd closed "Really?!".toList) ∧
      MarksAtEnd true "It is 14.".toList := by
  have hLast : " It is 14. Really?!".toList.getLast? = some '!' := by cbv
  have hHead : " Yes… and then\n".toList.head? = some ' ' := by cbv
  have hEnd : ∀ c ∈ " It is 14. Really?!".toList.getLast?, isTerminal c := by
    rw [hLast]
    simp [isTerminal]
  have hStart : ∀ c ∈ " Yes… and then\n".toList.head?, isTerminal c = false := by
    rw [hHead]
    simp [isTerminal]
  have hFirst : splitSentences " It is 14. Really?!".toList =
      ["It is 14.".toList, "Really?!".toList] := by cbv
  have hSecond : splitSentences " Yes… and then\n".toList =
      ["Yes…".toList, "and then".toList] := by cbv
  obtain ⟨-, hTrimmed, -, hMarks, hClosed, hAppend⟩ :=
    splitSentences_tiles_and_append " It is 14. Really?!".toList
  have hBoth := hAppend _ hEnd hStart
  rw [hFirst] at hTrimmed hMarks hClosed hBoth
  rw [hSecond] at hBoth
  exact ⟨hEnd, hStart, hFirst, hBoth, hTrimmed _ (List.mem_cons_of_mem _ List.mem_cons_self),
    hMarks _ (List.mem_cons_of_mem _ List.mem_cons_self), hClosed _ List.mem_cons_self⟩

end Prose.Parse
