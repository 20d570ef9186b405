import Prose.Proofs.Parse.Shape
import Prose.Proofs.Text.Fields

/-!
# What a lexeme is read as

The words of a text are found by a scan that starts again behind each word. They can be told without
a scan: take the runs of characters that continue a word, drop the hyphens in front of each, and
leave out what is empty then (`words_eq_strippedRuns`). The sign depends on the length of the last
word only, but there are just three shapes of text in which one character is left (`HasSign`): the
character alone, behind a single word, or in front of one. Together they give the whole lexeme
(`lexeme_eq_strippedRuns_and_sign`).
-/

namespace Prose.Parse

open Text

/-! ### Words as runs -/

/-- The runs of characters that continue a word, without the hyphens in front of them. -/
def strippedRuns (t : Text) : List Text :=
  ((fields (!continuesWord ·) t).map (List.dropWhile (· = '-'))).filter (!·.isEmpty)

/-- Behind a run, which may be empty, the other runs are found as if it were not there. -/
theorem strippedRuns_append {run rest : Text} (hRun : ∀ c ∈ run, continuesWord c)
    (hRest : ∀ c ∈ rest.head?, continuesWord c = false) :
    strippedRuns (run ++ rest) =
      [run.dropWhile (· = '-')].filter (!·.isEmpty) ++ strippedRuns rest := by
  by_cases hNil : run = []
  · rw [hNil]
    rfl
  · have hField : fields (!continuesWord ·) (run ++ rest) =
        run :: fields (!continuesWord ·) rest :=
      fields_append hNil (by simpa using hRun) (by simpa using hRest)
    rw [strippedRuns, hField, List.map_cons, ← List.singleton_append, List.filter_append]
    rfl

theorem strippedRuns_cons {c : Char} (hc : continuesWord c = false) (t : Text) :
    strippedRuns (c :: t) = strippedRuns t := by
  have hField : fields (!continuesWord ·) (c :: t) = fields (!continuesWord ·) t :=
    fields_cons (by simp [hc]) t
  rw [strippedRuns, hField, strippedRuns]

theorem startsWord_hyphen : startsWord '-' = false := by decide

/-- A hyphen in front of a run belongs to no word. -/
theorem strippedRuns_hyphen (t : Text) : strippedRuns ('-' :: t) = strippedRuns t := by
  have hRun : ∀ c ∈ t.takeWhile continuesWord, continuesWord c :=
    fun c hc => List.mem_takeWhile_imp hc
  have hRest : ∀ c ∈ (t.dropWhile continuesWord).head?, continuesWord c = false :=
    fun c hc => of_mem_head?_dropWhile hc
  have hHyphen : ∀ c ∈ '-' :: t.takeWhile continuesWord, continuesWord c :=
    List.forall_mem_cons.2 ⟨by decide, hRun⟩
  have hSplit : t = t.takeWhile continuesWord ++ t.dropWhile continuesWord :=
    List.takeWhile_append_dropWhile.symm
  calc strippedRuns ('-' :: t)
    _ = strippedRuns ('-' :: t.takeWhile continuesWord ++ t.dropWhile continuesWord) := by
        rw [List.cons_append, ← hSplit]
    _ = [(t.takeWhile continuesWord).dropWhile (· = '-')].filter (!·.isEmpty) ++
          strippedRuns (t.dropWhile continuesWord) := by
        rw [strippedRuns_append hHyphen hRest, List.dropWhile_cons_of_pos (by decide)]
    _ = strippedRuns t := by rw [← strippedRuns_append hRun hRest, ← hSplit]

/-- The words are the runs without the hyphens in front of them. -/
theorem words_eq_strippedRuns (t : Text) : words t = strippedRuns t := by
  fun_induction words t with
  | case1 => rw [strippedRuns, fields_nil]; rfl
  | case2 c rest hStarts ih =>
    have hRun : ∀ d ∈ c :: rest.takeWhile continuesWord, continuesWord d :=
      List.forall_mem_cons.2
        ⟨continuesWord_of_startsWord hStarts, fun d hd => List.mem_takeWhile_imp hd⟩
    have hAll : strippedRuns (c :: rest) =
        strippedRuns (c :: rest.takeWhile continuesWord ++ rest.dropWhile continuesWord) := by
      rw [List.cons_append, List.takeWhile_append_dropWhile]
    have hHyphen : c ≠ '-' := by
      rintro rfl
      rw [startsWord_hyphen] at hStarts
      cases hStarts
    rw [ih, hAll, strippedRuns_append hRun fun d hd => of_mem_head?_dropWhile hd,
      List.dropWhile_cons_of_neg (by simpa using hHyphen)]
    rfl
  | case3 c rest hNot ih =>
    rw [ih]
    cases hContinues : continuesWord c with
    | false => exact (strippedRuns_cons hContinues rest).symm
    | true =>
      obtain rfl : c = '-' := (startsWord_or_eq_hyphen hContinues).resolve_left hNot
      exact (strippedRuns_hyphen rest).symm

/-! ### The sign -/

/-- A text that is one word. -/
def IsOneWord (t : Text) : Prop :=
  (∃ c ∈ t.head?, startsWord c) ∧ ∀ c ∈ t, continuesWord c

theorem IsOneWord.words_eq {t : Text} (h : IsOneWord t) : words t = [t] :=
  words_eq_singleton h.1 h.2

theorem isOneWord_of_mem_words {t w : Text} (h : w ∈ words t) : IsOneWord w := by
  obtain ⟨c, rest, rfl, hStarts, -⟩ := exists_cons_of_mem_words h
  exact ⟨⟨c, rfl, hStarts⟩, continuesWord_of_mem_words h⟩

theorem IsOneWord.append {w t : Text} (hw : IsOneWord w) (ht : ∀ c ∈ t, continuesWord c) :
    IsOneWord (w ++ t) := by
  obtain ⟨⟨c, hc, hStarts⟩, hContinues⟩ := hw
  refine ⟨⟨c, ?_, hStarts⟩, List.forall_mem_append.2 ⟨hContinues, ht⟩⟩
  rw [List.head?_append, Option.mem_def.1 hc]
  rfl

/-- The texts in which one character is left beside the last word. -/
inductive HasSign : Text → Prop
  | alone {c : Char} (hc : startsWord c = false) : HasSign [c]
  | behind {w : Text} {c : Char} (hw : IsOneWord w) (hc : continuesWord c = false) :
      HasSign (w ++ [c])
  | inFront {c : Char} {w : Text} (hc : startsWord c = false) (hw : IsOneWord w) :
      HasSign (c :: w)

theorem HasSign.signOf_eq {t : Text} (h : HasSign t) : signOf t = t.getLast? := by
  have hNone {c : Char} (hc : startsWord c = false) : words [c] = [] := by
    rw [words_cons_of_not_startsWord hc, words]
  cases h with
  | alone hc => simp [signOf, hNone hc]
  | @behind w c hw hc =>
    obtain ⟨⟨d, hd, hStarts⟩, hContinues⟩ := hw
    obtain ⟨rest, rfl⟩ := List.head?_eq_some_iff.1 hd
    have hWords : words (d :: rest ++ [c]) = [d :: rest] := by
      rw [words_append hStarts (List.forall_mem_cons.1 hContinues).2 (by simpa using hc),
        hNone (startsWord_eq_false hc)]
    rw [signOf, hWords, if_pos (by simp)]
  | inFront hc hw => simp [signOf, words_cons_of_not_startsWord hc, hw.words_eq]

/-- Where a character is left for the sign, the text has one of the three shapes. -/
theorem hasSign_of_signOf {t : Text} {d : Char} (hSign : signOf t = some d) : HasSign t := by
  cases hLed : isLed t with
  | true =>
    obtain ⟨c, w, rfl, hc, hw⟩ := exists_of_isLed hLed
    exact .inFront hc (isOneWord_of_mem_words (t := w) (by simp [hw]))
  | false =>
    obtain ⟨hText, hd⟩ := eq_append_of_signOf hLed hSign
    rw [signOf, Option.ite_none_right_eq_some] at hSign
    cases hLast : (words t).getLast? with
    | none =>
      rw [hText, List.getLast?_eq_none_iff.1 hLast]
      exact .alone hd
    | some w =>
      have hLength := congrArg List.length hText
      rw [List.length_append, List.length_singleton] at hLength
      rw [hLast, Option.getD_some] at hSign
      have hWords : words t = [w] := words_eq_singleton_of_flatten hLast (by omega)
      have hOne : IsOneWord w := isOneWord_of_mem_words (t := t) (by simp [hWords])
      rw [hWords, List.flatten_singleton] at hText
      rw [hText]
      refine .behind hOne ?_
      -- what continues the word would belong to it
      by_contra hContinues
      have hLonger : IsOneWord (w ++ [d]) := hOne.append (by simpa using hContinues)
      rw [← hText] at hLonger
      have hEq : t = w := by simpa [hLonger.words_eq] using hWords
      rw [hEq] at hSign
      omega

/-- A lexeme holds its runs without the hyphens in front of them and, in three shapes of text, the
last character as a sign behind them. The last word is no longer than the text. -/
theorem lexeme_eq_strippedRuns_and_sign (t : Text) :
    (HasSign t → ∃ c ∈ t.getLast?,
      lexeme t = .composite .lexeme ((strippedRuns t).map word ++ [.sign c])) ∧
    (¬ HasSign t → lexeme t = .composite .lexeme ((strippedRuns t).map word)) ∧
    ((words t).getLast?.getD []).length ≤ t.length := by
  rw [lexeme_eq, words_eq_strippedRuns]
  refine ⟨fun h => ?_, fun h => ?_, ?_⟩
  · obtain ⟨c, hc⟩ : ∃ c, t.getLast? = some c := by
      cases h with
      | alone => exact ⟨_, rfl⟩
      | behind => exact ⟨_, List.getLast?_concat⟩
      | inFront => exact ⟨_, List.getLast?_eq_some_getLast (List.cons_ne_nil _ _)⟩
    refine ⟨c, hc, ?_⟩
    rw [h.signOf_eq, hc]
    rfl
  · have hNone : signOf t = none := by
      rw [Option.eq_none_iff_forall_ne_some]
      exact fun d hd => h (hasSign_of_signOf hd)
    rw [hNone]
    exact congrArg _ (List.append_nil _)
  · rw [← words_eq_strippedRuns]
    exact length_getLast?_words_le t

/-- The hyphen inside the word stays, and the mark behind it is its sign. -/
theorem lexeme_of_word_and_mark :
    HasSign "(so-so)!".toList ∧
      lexeme "(so-so)!".toList = .composite .lexeme [word "(so-so)".toList, .sign '!'] := by
  have hWord : IsOneWord ['(', 's', 'o', '-', 's', 'o', ')'] :=
    ⟨⟨'(', by decide⟩, by simp [continuesWord, startsWord, isWordChar]⟩
  have hText : ['(', 's', 'o', '-', 's', 'o', ')'] ++ ['!'] = "(so-so)!".toList := by cbv
  have hSign : HasSign "(so-so)!".toList := hText ▸ .behind hWord (by decide)
  have hRuns : strippedRuns "(so-so)!".toList = ["(so-so)".toList] := by cbv
  obtain ⟨c, hLast, hLexeme⟩ := (lexeme_eq_strippedRuns_and_sign "(so-so)!".toList).1 hSign
  obtain rfl : '!' = c := Option.some.inj hLast
  exact ⟨hSign, by rw [hLexeme, hRuns]; rfl⟩

end Prose.Parse
