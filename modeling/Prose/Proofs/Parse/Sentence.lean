import Prose.Parse.Sentence
import Prose.Proofs.Parse.Lexeme
import Prose.Proofs.Text.Joined

/-!
# Cutting lines

Parts without blanks that are joined by single spaces are cut apart again when each starts a lexeme
(`splitLexemes_join`), and so are sentences when each but the last ends in a terminal mark and no
other mark stands in them (`splitSentences_join`).
-/

namespace Prose.Parse

open Text

theorem isBlank_eq_false_of_startsLexeme {c : Char} (h : startsLexeme c) : isBlank c = false :=
  isBlank_eq_false (by decide) h

theorem isTerminal_eq_false_of_continuesWord {c : Char} (h : continuesWord c) :
    isTerminal c = false := by
  by_contra hTerminal
  simp only [isTerminal, Bool.not_eq_false, Bool.or_eq_true, decide_eq_true_eq] at hTerminal
  rcases hTerminal with ((rfl | rfl) | rfl) | rfl <;> cases h

theorem lexemePieces_cons {c : Char} (hc : isBlank c = false) (t : Text) :
    lexemePieces (c :: t) = consFirst c (lexemePieces t) := by
  rw [lexemePieces, if_neg (by simp [hc])]

theorem lexemePieces_eq_singleton {t : Text} (h : ∀ c ∈ t, isBlank c = false) :
    lexemePieces t = [t] := by
  induction t with
  | nil => rw [lexemePieces]
  | cons c t ih =>
    rw [List.forall_mem_cons] at h
    rw [lexemePieces_cons h.1, ih h.2]
    rfl

/-- A space before the start of a lexeme ends a piece. -/
theorem lexemePieces_append_space {part : Text} (hPart : ∀ c ∈ part, isBlank c = false) {t : Text}
    (ht : ∃ c ∈ t.head?, startsLexeme c) :
    lexemePieces (part ++ ' ' :: t) = part :: lexemePieces t := by
  induction part with
  | nil =>
    obtain ⟨c, hc, hStarts⟩ := ht
    have hDrop : t.dropWhile isBlank = t := by
      refine dropWhile_eq_self_of_head? fun d hd => ?_
      obtain rfl : c = d := Option.some.inj (hc.symm.trans hd)
      exact isBlank_eq_false_of_startsLexeme hStarts
    have hSpace : isBlank ' ' = true := rfl
    rw [List.nil_append, lexemePieces, hDrop, Option.mem_def.1 hc,
      if_pos (by simp [hSpace, hStarts])]
  | cons c part ih =>
    rw [List.forall_mem_cons] at hPart
    rw [List.cons_append, lexemePieces_cons hPart.1, ih hPart.2]
    rfl

/-- A line of lexemes is cut into them. -/
theorem splitLexemes_join {parts : List Text}
    (hBlank : ∀ part ∈ parts, ∀ c ∈ part, isBlank c = false)
    (hFirst : ∀ part ∈ parts, ∃ c ∈ part.head?, startsLexeme c) :
    splitLexemes (join [' '] parts) = parts := by
  have hNe : ∀ part ∈ parts, part ≠ [] := by
    rintro part hPart rfl
    obtain ⟨c, hc, -⟩ := hFirst [] hPart
    cases hc
  rcases parts with _ | ⟨part, parts⟩
  · simp [splitLexemes, join, lexemePieces]
  suffices hPieces : lexemePieces (join [' '] (part :: parts)) = part :: parts by
    rw [splitLexemes, hPieces, List.filter_eq_self]
    simpa using hNe
  induction parts generalizing part with
  | nil =>
    rw [join_singleton]
    exact lexemePieces_eq_singleton (hBlank part (by simp))
  | cons part' parts ih =>
    rw [List.forall_mem_cons] at hBlank hFirst hNe
    have hHead : ∃ c ∈ (join [' '] (part' :: parts)).head?, startsLexeme c := by
      rw [head?_join_of_ne_nil (hNe.2 part' (by simp))]
      exact hFirst.2 part' (by simp)
    rw [join_cons_cons, List.append_assoc, List.singleton_append,
      lexemePieces_append_space hBlank.1 hHead, ih part' hBlank.2 hFirst.2 hNe.2]

/-! ### Pieces of a paragraph -/

/-- A piece ends behind its terminal marks. -/
theorem sentencePieces_append {s marks rest : Text} (hs : ∀ c ∈ s, isTerminal c = false)
    (hMarks : ∀ c ∈ marks, isTerminal c) (hNe : s ++ marks ≠ []) (hStop : marks = [] → rest = [])
    (hRest : ∀ c ∈ rest.head?, isTerminal c = false) :
    sentencePieces (s ++ marks ++ rest) = (s ++ marks) :: sentencePieces rest := by
  have hBefore : ∀ c ∈ s, (!isTerminal c) = true := fun c hc => by simp [hs c hc]
  have hBehind : ∀ c ∈ (marks ++ rest).head?, (!isTerminal c) = false := by
    intro c hc
    cases marks with
    | nil =>
      rw [hStop rfl] at hc
      cases hc
    | cons m marks =>
      obtain rfl : m = c := Option.some.inj hc
      simp [hMarks m]
  obtain ⟨c, t, hText⟩ := List.exists_cons_of_ne_nil hNe
  rw [hText, List.cons_append, sentencePieces, ← List.cons_append, ← hText, List.append_assoc,
    takeWhile_append_of_head? hBefore hBehind, dropWhile_append_of_head? hBefore hBehind,
    takeWhile_append_of_head? hMarks hRest, dropWhile_append_of_head? hMarks hRest]

theorem sentencePieces_cons {c : Char} (hc : isTerminal c = false) {t : Text} (hNe : t ≠ []) :
    sentencePieces (c :: t) = consFirst c (sentencePieces t) := by
  obtain ⟨d, t, rfl⟩ := List.exists_cons_of_ne_nil hNe
  rw [sentencePieces, sentencePieces.eq_2 d t, List.takeWhile_cons_of_pos (by simp [hc]),
    List.dropWhile_cons_of_pos (by simp [hc])]
  rfl

/-- All terminal marks stand at the end, and `closed` says whether there are any. -/
def MarksAtEnd (closed : Bool) (t : Text) : Prop :=
  ∃ s marks, t = s ++ marks ∧ (∀ c ∈ s, isTerminal c = false) ∧ (∀ c ∈ marks, isTerminal c) ∧
    (marks = [] ↔ closed = false)

theorem MarksAtEnd.isTerminal_eq_false {t : Text} (h : MarksAtEnd false t) :
    ∀ c ∈ t, isTerminal c = false := by
  obtain ⟨s, marks, rfl, hs, -, hClosed⟩ := h
  rwa [hClosed.2 rfl, List.append_nil]

theorem marksAtEnd_of_forall {t : Text} (h : ∀ c ∈ t, isTerminal c = false) :
    MarksAtEnd false t :=
  ⟨t, [], (List.append_nil t).symm, h, by simp, by simp⟩

theorem MarksAtEnd.exists_marks {t : Text} (h : MarksAtEnd true t) :
    ∃ s marks, t = s ++ marks ∧ (∀ c ∈ s, isTerminal c = false) ∧ (∀ c ∈ marks, isTerminal c) ∧
      marks ≠ [] := by
  obtain ⟨s, marks, hText, hs, hMarks, hClosed⟩ := h
  refine ⟨s, marks, hText, hs, hMarks, fun hNil => ?_⟩
  cases hClosed.1 hNil

theorem MarksAtEnd.append {closed : Bool} {s t : Text} (hs : ∀ c ∈ s, isTerminal c = false)
    (h : MarksAtEnd closed t) : MarksAtEnd closed (s ++ t) := by
  obtain ⟨u, marks, rfl, hu, hMarks, hClosed⟩ := h
  refine ⟨s ++ u, marks, (List.append_assoc s u marks).symm, ?_, hMarks, hClosed⟩
  rw [List.forall_mem_append]
  exact ⟨hs, hu⟩

theorem MarksAtEnd.nil : MarksAtEnd false [] :=
  marksAtEnd_of_forall (by simp)

theorem MarksAtEnd.singleton (c : Char) : MarksAtEnd (isTerminal c) [c] := by
  cases hc : isTerminal c with
  | true => exact ⟨[], [c], rfl, by simp, by simp [hc], by simp⟩
  | false => exact ⟨[c], [], rfl, by simp [hc], by simp, by simp⟩

theorem marksAtEnd_join {texts : List Text} {last : Text} {closed : Bool}
    (hTexts : ∀ t ∈ texts, MarksAtEnd false t) (hLast : MarksAtEnd closed last) :
    MarksAtEnd closed (join [' '] (texts ++ [last])) := by
  induction texts with
  | nil => rwa [List.nil_append, join_singleton]
  | cons t texts ih =>
    rw [List.forall_mem_cons] at hTexts
    have ih := ih hTexts.2
    obtain ⟨u, us, hRest⟩ := List.exists_cons_of_ne_nil
      (List.append_ne_nil_of_right_ne_nil texts (List.cons_ne_nil last []))
    rw [hRest] at ih
    rw [List.cons_append, hRest, join_cons_cons]
    refine .append ?_ ih
    rw [List.forall_mem_append, List.forall_mem_singleton]
    exact ⟨hTexts.1.isTerminal_eq_false, by decide⟩

/-- A sentence without terminal marks in it is a piece of its own. -/
theorem MarksAtEnd.sentencePieces_eq {closed : Bool} {t : Text} (h : MarksAtEnd closed t)
    (hNe : t ≠ []) : sentencePieces t = [t] := by
  obtain ⟨s, marks, rfl, hs, hMarks, -⟩ := h
  have hPieces : sentencePieces (s ++ marks ++ []) = (s ++ marks) :: sentencePieces [] :=
    sentencePieces_append hs hMarks hNe (fun _ => rfl) (by simp)
  rwa [List.append_nil, sentencePieces] at hPieces

/-- A sentence that ends in terminal marks is cut off where the marks end. -/
theorem MarksAtEnd.sentencePieces_append_of_head? {t rest : Text} (h : MarksAtEnd true t)
    (hRest : ∀ c ∈ rest.head?, isTerminal c = false) :
    sentencePieces (t ++ rest) = t :: sentencePieces rest := by
  obtain ⟨s, marks, rfl, hs, hMarks, hNe⟩ := h.exists_marks
  exact sentencePieces_append hs hMarks (List.append_ne_nil_of_right_ne_nil s hNe)
    (fun hNil => absurd hNil hNe) hRest

theorem MarksAtEnd.sentencePieces_append_space {t rest : Text} (h : MarksAtEnd true t)
    (hRest : rest ≠ []) :
    sentencePieces (t ++ ' ' :: rest) = t :: consFirst ' ' (sentencePieces rest) := by
  rw [h.sentencePieces_append_of_head? (by simp [isTerminal]),
    sentencePieces_cons (by decide) hRest]

theorem splitSentences_join {sentences : List Text} {last : Text} {closed : Bool}
    (hSentences : ∀ t ∈ sentences, IsTrimmed t ∧ MarksAtEnd true t) (hLast : IsTrimmed last)
    (hMarks : MarksAtEnd closed last) :
    splitSentences (join [' '] (sentences ++ [last])) = sentences ++ [last] := by
  show trimmed (sentencePieces (join [' '] (sentences ++ [last]))) = sentences ++ [last]
  induction sentences with
  | nil =>
    rw [List.nil_append, join_singleton, hMarks.sentencePieces_eq hLast.ne_nil,
      trimmed_eq_self (by simpa using hLast)]
  | cons t sentences ih =>
    rw [List.forall_mem_cons] at hSentences
    obtain ⟨⟨hTrimmed, hClosed⟩, hSentences⟩ := hSentences
    obtain ⟨u, us, hRest⟩ := List.exists_cons_of_ne_nil
      (List.append_ne_nil_of_right_ne_nil sentences (List.cons_ne_nil last []))
    have hNe : join [' '] (u :: us) ≠ [] := by
      rw [← hRest]
      refine (isTrimmed_join [' '] (by simp) fun p hp => ?_).ne_nil
      rcases List.mem_append.1 hp with hp | hp
      · exact (hSentences p hp).1
      · rwa [List.mem_singleton.1 hp]
    have ih := ih hSentences
    rw [hRest] at ih
    rw [List.cons_append, hRest, join_cons_cons, List.append_assoc, List.singleton_append,
      hClosed.sentencePieces_append_space hNe, trimmed_cons,
      trimmed_consFirst_of_isBlank (by decide), ih, trimmed_eq_self (by simpa using hTrimmed)]
    rfl

theorem splitSentences_eq_singleton {t : Text} (hTrimmed : IsTrimmed t)
    (h : ∀ c ∈ t, isTerminal c = false) : splitSentences t = [t] := by
  have hMarks : MarksAtEnd false t := marksAtEnd_of_forall h
  have hSplit : splitSentences (join [' '] ([] ++ [t])) = [] ++ [t] :=
    splitSentences_join (by simp) hTrimmed hMarks
  rwa [List.nil_append, join_singleton] at hSplit

end Prose.Parse
