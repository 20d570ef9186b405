import Prose.Proofs.Parse.Conservation

/-!
# The sign of a lexeme

A lexeme that is one character longer than its last word keeps its last character as the sign. As a
rule that character stands behind the only word. But it can be missing in front of it: in a led
lexeme the first character starts no word, and the last one, which is in the word already, is kept
twice. Only then does a lexeme render what it does not hold (`render_lexeme_sublist_iff`), and a
document holds a character other than a hyphen more often than its text exactly when a led lexeme
ends in it (`render_document_sublist_and_count_le_iff`).
-/

namespace Prose.Parse

open Text

/-! ### Words of a text -/

theorem startsWord_or_eq_hyphen {c : Char} (h : continuesWord c) : startsWord c ∨ c = '-' := by
  simpa [continuesWord] using h

theorem head?_of_words_eq_singleton {c : Char} {t : Text} (h : words (c :: t) = [c :: t]) :
    startsWord c := by
  by_contra hNot
  have hFirst := (loses_words t).sublist.length_le
  rw [← words_cons_of_not_startsWord (by simpa using hNot), h] at hFirst
  simp at hFirst

theorem length_getLast?_words_le (t : Text) :
    ((words t).getLast?.getD []).length ≤ t.length := by
  cases hLast : (words t).getLast? with
  | none => exact Nat.zero_le _
  | some w =>
    have hMem : w ∈ words t := List.mem_of_getLast? hLast
    exact ((List.sublist_flatten_of_mem hMem).trans (loses_words t).sublist).length_le

/-- A last word that is as long as all words together is the only one. -/
theorem words_eq_singleton_of_flatten {t w : Text} (hLast : (words t).getLast? = some w)
    (hLength : (words t).flatten.length ≤ w.length) : words t = [w] := by
  obtain ⟨before, hWords⟩ := List.getLast?_eq_some_iff.1 hLast
  have hFlatten : (words t).flatten = before.flatten ++ w := by simp [hWords]
  rw [hFlatten, List.length_append] at hLength
  have hEmpty : before.flatten = [] := List.length_eq_zero_iff.1 (by omega)
  have hBefore : before = [] := by
    refine List.eq_nil_iff_forall_not_mem.2 fun u hu => ?_
    have hMem : u ∈ words t := by simp [hWords, hu]
    exact ne_nil_of_mem_words hMem (List.flatten_eq_nil_iff.1 hEmpty u hu)
  rw [hWords, hBefore, List.nil_append]

/-- A last word that is as long as the text is the text and its only word. -/
theorem words_eq_singleton_of_length {t w : Text} (hLast : (words t).getLast? = some w)
    (hLength : w.length = t.length) : words t = [t] := by
  have hSublist := (loses_words t).sublist
  have hWords : words t = [w] :=
    words_eq_singleton_of_flatten hLast (hSublist.length_le.trans hLength.ge)
  rw [hWords, List.flatten_singleton] at hSublist
  rw [hWords, hSublist.eq_of_length hLength]

/-- A text that starts with a word is that word, or the word ends before a character that starts
none. -/
theorem exists_first_word {c : Char} (hStarts : startsWord c) (rest : Text) :
    words (c :: rest) = [c :: rest] ∨ ∃ w e behind, c :: rest = w ++ e :: behind ∧ w ≠ [] ∧
      startsWord e = false ∧ words (c :: rest) = w :: words behind := by
  have hSplit : rest.takeWhile continuesWord ++ rest.dropWhile continuesWord = rest :=
    List.takeWhile_append_dropWhile
  rw [words_cons_of_startsWord hStarts]
  cases hRest : rest.dropWhile continuesWord with
  | nil =>
    left
    rw [hRest, List.append_nil] at hSplit
    rw [hSplit, words]
  | cons e behind =>
    right
    have hStop : continuesWord e = false := of_mem_head?_dropWhile (by rw [hRest]; rfl)
    have hNot : startsWord e = false := startsWord_eq_false hStop
    rw [hRest] at hSplit
    refine ⟨c :: rest.takeWhile continuesWord, e, behind, ?_, List.cons_ne_nil c _, hNot, ?_⟩
    · rw [List.cons_append, hSplit]
    · rw [words_cons_of_not_startsWord hNot]

/-! ### Led lexemes -/

/-- Does a character that starts no word stand in front of a single word? -/
def isLed : Text → Bool
  | [] => false
  | c :: rest => !startsWord c && words rest == [rest]

theorem exists_of_isLed {t : Text} (h : isLed t) :
    ∃ c w, t = c :: w ∧ startsWord c = false ∧ words w = [w] := by
  cases t with
  | nil => cases h
  | cons c w =>
    simp only [isLed, Bool.and_eq_true, Bool.not_eq_true', beq_iff_eq] at h
    exact ⟨c, w, rfl, h⟩

theorem words_of_isLed {t : Text} (h : isLed t) : words t = [t.tail] := by
  obtain ⟨c, w, rfl, hc, hw⟩ := exists_of_isLed h
  rw [words_cons_of_not_startsWord hc, hw, List.tail_cons]

/-- The sign of a led lexeme is its last character, which its word holds already. -/
theorem signOf_of_isLed {t : Text} (h : isLed t) : signOf t = t.getLast? := by
  obtain ⟨c, w, rfl, -, -⟩ := exists_of_isLed h
  rw [signOf, words_of_isLed h]
  simp

/-- A sign behind a text that starts with a word. -/
theorem eq_append_of_signOf_of_startsWord {c d : Char} {rest : Text} (hStarts : startsWord c)
    (hSign : signOf (c :: rest) = some d) :
    c :: rest = (words (c :: rest)).flatten ++ [d] ∧ startsWord d = false := by
  rw [signOf, Option.ite_none_right_eq_some] at hSign
  obtain ⟨hLength, hLast⟩ := hSign
  rcases exists_first_word hStarts rest with hWords | ⟨w, e, behind, hText, hNe, hNot, hWords⟩
  · -- no character is left for the sign
    rw [hWords, List.getLast?_singleton, Option.getD_some, Nat.sub_self] at hLength
    cases hLength
  · have hLengths := congrArg List.length hText
    have hFirst : 0 < w.length := List.length_pos_of_ne_nil hNe
    rw [hWords] at hLength ⊢
    simp only [List.length_append, List.length_cons] at hLengths hLength
    cases hBehind : words behind with
    | nil =>
      rw [hBehind, List.getLast?_singleton, Option.getD_some] at hLength
      obtain rfl : behind = [] := List.length_eq_zero_iff.1 (by omega)
      rw [hText, List.getLast?_concat] at hLast
      obtain rfl : e = d := Option.some.inj hLast
      exact ⟨by rw [hText, List.flatten_singleton], hNot⟩
    | cons u us =>
      -- two words are at least two characters longer than the last of them
      have hShort := length_getLast?_words_le behind
      rw [hBehind] at hShort hLength
      rw [List.getLast?_cons_cons] at hLength
      omega

/-- The sign of a lexeme that is not led stands behind the words and is in none of them. -/
theorem eq_append_of_signOf {t : Text} {d : Char} (hLed : isLed t = false)
    (hSign : signOf t = some d) : t = (words t).flatten ++ [d] ∧ startsWord d = false := by
  cases t with
  | nil =>
    rw [signOf, Option.ite_none_right_eq_some] at hSign
    cases hSign.2
  | cons c rest =>
    cases hStarts : startsWord c with
    | true => exact eq_append_of_signOf_of_startsWord hStarts hSign
    | false =>
      rw [signOf, Option.ite_none_right_eq_some, words_cons_of_not_startsWord hStarts,
        List.length_cons] at hSign
      obtain ⟨hLength, hLast⟩ := hSign
      rw [words_cons_of_not_startsWord hStarts]
      cases hEnd : (words rest).getLast? with
      | none =>
        rw [hEnd, Option.getD_none, List.length_nil] at hLength
        have hRest : rest = [] := List.length_eq_zero_iff.1 (by omega)
        rw [hRest, List.getLast?_singleton] at hLast
        obtain rfl : c = d := Option.some.inj hLast
        exact ⟨by rw [List.getLast?_eq_none_iff.1 hEnd, hRest]; rfl, hStarts⟩
      | some w =>
        have hShort := length_getLast?_words_le rest
        rw [hEnd, Option.getD_some] at hLength hShort
        have hWords := words_eq_singleton_of_length hEnd (by omega)
        simp [isLed, hStarts, hWords] at hLed

/-! ### What a lexeme renders -/

theorem render_lexeme (t : Text) : (lexeme t).render = (words t).flatten ++ (signOf t).toList := by
  have hSign (s : Text) : (s.map Leaf.sign).map Leaf.symbol = s := by
    rw [List.map_map, Function.comp_def]
    exact List.map_id' s
  rw [Node.render_eq_map_leaves, leaves_lexeme, List.map_append, Leaf.map_symbol_map_classify,
    hSign]

theorem render_lexeme_of_isLed {t : Text} (h : isLed t) :
    (lexeme t).render = t.tail ++ t.getLast?.toList := by
  rw [render_lexeme, signOf_of_isLed h, words_of_isLed h, List.flatten_singleton]

/-- A lexeme renders a subsequence of its text exactly when it is not led. -/
theorem render_lexeme_sublist_iff (t : Text) :
    (lexeme t).render.Sublist t ↔ isLed t = false := by
  constructor
  · intro hSublist
    by_contra hLed
    rw [Bool.not_eq_false] at hLed
    rw [render_lexeme_of_isLed hLed] at hSublist
    obtain ⟨c, w, rfl, hc, hw⟩ := exists_of_isLed hLed
    have hNe : w ≠ [] := ne_nil_of_mem_words (t := w) (by simp [hw])
    obtain ⟨d, w, rfl⟩ := List.exists_cons_of_ne_nil hNe
    -- both are of one length, but only one starts with a word
    have hEq := hSublist.eq_of_length (by simp [List.getLast?_cons])
    obtain rfl : d = c := by simpa using congrArg List.head? hEq
    rw [head?_of_words_eq_singleton hw] at hc
    cases hc
  · intro hLed
    rw [render_lexeme]
    cases hSign : signOf t with
    | none => simpa using (loses_words t).sublist
    | some d => rw [Option.toList_some, ← (eq_append_of_signOf hLed hSign).1]

/-! ### How often a character is kept -/

/-- Is `t` a led lexeme that ends in `c`? -/
def doubles (c : Char) (t : Text) : Bool :=
  isLed t && t.getLast? == some c

theorem count_getLast?_of_isLed {t : Text} (h : isLed t) (c : Char) :
    t.getLast?.toList.count c = if doubles c t then 1 else 0 := by
  rw [doubles, h, Bool.true_and]
  cases t.getLast? with
  | none => rfl
  | some d => simp [List.count_singleton]

theorem count_render_lexeme_le (c : Char) (t : Text) :
    (lexeme t).render.count c ≤ t.count c + if doubles c t then 1 else 0 := by
  cases hLed : isLed t with
  | false => exact Nat.le_add_right_of_le (((render_lexeme_sublist_iff t).2 hLed).count_le c)
  | true =>
    have hWord : t.tail.count c ≤ t.count c := (List.tail_sublist t).count_le c
    rw [render_lexeme_of_isLed hLed, List.count_append, count_getLast?_of_isLed hLed]
    exact Nat.add_le_add_right hWord _

/-- Of a character that starts a word no occurrence is left out. -/
theorem count_render_lexeme_of_startsWord {c : Char} (hc : startsWord c) (t : Text) :
    (lexeme t).render.count c = t.count c + if doubles c t then 1 else 0 := by
  have hWords : (words t).flatten.count c = t.count c := by
    have hKept := (loses_words t).filter_eq (q := startsWord) fun d hd => by simp [hd]
    rw [← List.count_filter hc, hKept, List.count_filter hc]
  rw [render_lexeme, List.count_append, hWords]
  congr 1
  cases hLed : isLed t with
  | false =>
    have hNot : doubles c t = false := by rw [doubles, hLed, Bool.false_and]
    rw [hNot]
    cases hSign : signOf t with
    | none => rfl
    | some d =>
      have hd := (eq_append_of_signOf hLed hSign).2
      have hNe : d ≠ c := by
        rintro rfl
        rw [hc] at hd
        cases hd
      simp [hNe]
  | true => rw [signOf_of_isLed hLed, count_getLast?_of_isLed hLed]

theorem count_document_eq_sum (c : Char) (t : Text) : (document paragraphBreak t).count c =
    ((lexemeTexts t).map fun s => (lexeme s).render.count c).sum := by
  rw [Node.count_eq_count_render, render_document, List.count_flatMap]
  rfl

theorem sum_count_add_doubles (c : Char) (parts : List Text) :
    (parts.map fun s => s.count c + if doubles c s then 1 else 0).sum =
      parts.flatten.count c + parts.countP (doubles c) := by
  induction parts with
  | nil => rfl
  | cons s parts ih =>
    rw [List.map_cons, List.sum_cons, ih, List.flatten_cons, List.count_append, List.countP_cons]
    omega

theorem count_document_le (c : Char) (t : Text) :
    (document paragraphBreak t).count c ≤ t.count c + (lexemeTexts t).countP (doubles c) := by
  have hLexemes : (lexemeTexts t).flatten.count c ≤ t.count c :=
    (loses_lexemeTexts t).sublist.count_le c
  rw [count_document_eq_sum]
  calc ((lexemeTexts t).map fun s => (lexeme s).render.count c).sum
    _ ≤ ((lexemeTexts t).map fun s => s.count c + if doubles c s then 1 else 0).sum :=
        List.sum_le_sum fun s _ => count_render_lexeme_le c s
    _ = (lexemeTexts t).flatten.count c + (lexemeTexts t).countP (doubles c) :=
        sum_count_add_doubles c (lexemeTexts t)
    _ ≤ t.count c + (lexemeTexts t).countP (doubles c) := Nat.add_le_add_right hLexemes _

/-- A character that starts a word is held once for each occurrence, and once more for each led
lexeme that ends in it. -/
theorem count_document_of_startsWord {c : Char} (hc : startsWord c) (t : Text) :
    (document paragraphBreak t).count c = t.count c + (lexemeTexts t).countP (doubles c) := by
  have hLexemes : (lexemeTexts t).flatten.count c = t.count c := by
    have hKept := (loses_lexemeTexts t).filter_eq (q := startsWord)
      fun d hd => isBlank_eq_false (by decide) hd
    rw [← List.count_filter hc, hKept, List.count_filter hc]
  have hEach : ((lexemeTexts t).map fun s => (lexeme s).render.count c) =
      (lexemeTexts t).map fun s => s.count c + if doubles c s then 1 else 0 :=
    List.map_congr_left fun s _ => count_render_lexeme_of_startsWord hc s
  rw [count_document_eq_sum, hEach, sum_count_add_doubles, hLexemes]

/-- Where no lexeme is led, a document renders a subsequence of its text. -/
theorem render_document_sublist {t : Text} (h : ∀ s ∈ lexemeTexts t, isLed s = false) :
    (document paragraphBreak t).render.Sublist t := by
  have hParts (parts : List Text) (hParts : ∀ s ∈ parts, isLed s = false) :
      (parts.flatMap fun s => (lexeme s).render).Sublist parts.flatten := by
    induction parts with
    | nil => exact List.Sublist.refl []
    | cons s parts ih =>
      rw [List.forall_mem_cons] at hParts
      exact ((render_lexeme_sublist_iff s).2 hParts.1).append (ih hParts.2)
  rw [render_document]
  exact (hParts _ h).trans (loses_lexemeTexts t).sublist

/-- The last character of a led lexeme is in its word. -/
theorem continuesWord_of_doubles {c : Char} {t : Text} (h : doubles c t) : continuesWord c := by
  rw [doubles, Bool.and_eq_true, beq_iff_eq] at h
  obtain ⟨d, w, rfl, -, hw⟩ := exists_of_isLed h.1
  have hMem : w ∈ words w := by simp [hw]
  obtain ⟨e, w, rfl⟩ := List.exists_cons_of_ne_nil (ne_nil_of_mem_words hMem)
  have hLast : (e :: w).getLast? = some c := List.getLast?_cons_cons.symm.trans h.2
  exact continuesWord_of_mem_words hMem c (List.mem_of_getLast? hLast)

/-- A character other than a hyphen is held no more often than it stands in the text exactly when no
led lexeme ends in it. -/
theorem count_document_le_iff {c : Char} (hc : c ≠ '-') (t : Text) :
    (document paragraphBreak t).count c ≤ t.count c ↔
      ∀ s ∈ lexemeTexts t, isLed s → s.getLast? ≠ some c := by
  have hNone : (∀ s ∈ lexemeTexts t, isLed s → s.getLast? ≠ some c) ↔
      (lexemeTexts t).countP (doubles c) = 0 := by
    simp [List.countP_eq_zero, doubles]
  rw [hNone]
  constructor
  · intro hCount
    by_contra hSome
    obtain ⟨s, hs, hDoubles⟩ := List.countP_pos_iff.1 (Nat.pos_of_ne_zero hSome)
    have hStarts : startsWord c :=
      (startsWord_or_eq_hyphen (continuesWord_of_doubles hDoubles)).resolve_right hc
    rw [count_document_of_startsWord hStarts] at hCount
    omega
  · intro hZero
    have hCount := count_document_le c t
    rwa [hZero, Nat.add_zero] at hCount

/-- A document renders a subsequence of its text when no lexeme is led, and then only led lexemes
that end in a hyphen can be among the others; it holds a character other than a hyphen no more often
than the text exactly when no led lexeme ends in it. -/
theorem render_document_sublist_and_count_le_iff (t : Text) :
    ((∀ s ∈ lexemeTexts t, isLed s = false) →
      (document paragraphBreak t).render.Sublist t ∧
        ∀ c, (document paragraphBreak t).count c ≤ t.count c) ∧
    ((document paragraphBreak t).render.Sublist t →
      ∀ s ∈ lexemeTexts t, isLed s → s.getLast? = some '-') ∧
    ∀ c, c ≠ '-' → ((document paragraphBreak t).count c ≤ t.count c ↔
      ∀ s ∈ lexemeTexts t, isLed s → s.getLast? ≠ some c) := by
  have hCount (h : (document paragraphBreak t).render.Sublist t) (c : Char) :
      (document paragraphBreak t).count c ≤ t.count c := by
    rw [Node.count_eq_count_render]
    exact h.count_le c
  refine ⟨fun hNone => ?_, fun hSublist s hs hLed => ?_, fun c hc => count_document_le_iff hc t⟩
  · have hSublist := render_document_sublist hNone
    exact ⟨hSublist, hCount hSublist⟩
  · obtain ⟨c, w, rfl, -, -⟩ := exists_of_isLed hLed
    have hLast := List.getLast?_eq_some_getLast (List.cons_ne_nil c w)
    by_contra hHyphen
    have hNe : (c :: w).getLast (List.cons_ne_nil c w) ≠ '-' := fun hEq => hHyphen (hEq ▸ hLast)
    exact (count_document_le_iff hNe t).1 (hCount hSublist _) _ hs hLed hLast

/-- Quotation marks on both sides of a word leave it as it is. -/
theorem render_document_sublist_of_quoted_word :
    (∀ s ∈ lexemeTexts "\"so-so\", (a)!".toList, isLed s = false) ∧
      (document paragraphBreak "\"so-so\", (a)!".toList).render = "so-so(a)!".toList ∧
      (document paragraphBreak "\"so-so\", (a)!".toList).render.Sublist
        "\"so-so\", (a)!".toList := by
  have hTexts : lexemeTexts "\"so-so\", (a)!".toList = ["\"so-so\",".toList, "(a)!".toList] := by
    cbv
  have hNone : ∀ s ∈ lexemeTexts "\"so-so\", (a)!".toList, isLed s = false := by
    rw [hTexts]
    simp only [List.forall_mem_cons]
    exact ⟨by cbv, by cbv, List.forall_mem_nil _⟩
  exact ⟨hNone, by cbv, ((render_document_sublist_and_count_le_iff _).1 hNone).1⟩

/-- The hyphen before a number is left out and the last digit kept twice. -/
theorem render_document_of_hyphen_five :
    (document paragraphBreak "-5".toList).render = "55".toList ∧
      ¬ (document paragraphBreak "-5".toList).render.Sublist "-5".toList ∧
      (document paragraphBreak "-5".toList).count '5' = 2 ∧ "-5".toList.count '5' = 1 := by
  have hRender : (document paragraphBreak "-5".toList).render = "55".toList := by cbv
  refine ⟨hRender, ?_, by cbv, by decide⟩
  rw [hRender]
  decide

end Prose.Parse
