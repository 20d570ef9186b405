import Prose.Parse.Lexeme
import Prose.Proofs.Text.Runs
import Prose.Tree.Layout

/-!
# Words and lexemes

Each word of a text starts as a word can and goes on as one (`exists_cons_of_mem_words`), up to a
character that does not continue it (`words_append`). A text that is one word is kept as a lexeme
without a sign. A character before the word that starts none is dropped, but it makes the text one
character longer than the word, so the last character of the word is kept once more as the sign.
-/

namespace Prose.Parse

theorem words_cons_of_startsWord {c : Char} (h : startsWord c) (t : Text) :
    words (c :: t) = (c :: t.takeWhile continuesWord) :: words (t.dropWhile continuesWord) := by
  rw [words, if_pos h]

theorem words_cons_of_not_startsWord {c : Char} (h : startsWord c = false) (t : Text) :
    words (c :: t) = words t := by
  rw [words, if_neg (by simp [h])]

theorem isWordChar_of_isAlpha {c : Char} (h : c.isAlpha) : isWordChar c := by
  simp [isWordChar, Char.isAlphanum, h]

theorem startsWord_of_isWordChar {c : Char} (h : isWordChar c) : startsWord c := by
  simp [startsWord, h]

theorem continuesWord_of_startsWord {c : Char} (h : startsWord c) : continuesWord c := by
  simp [continuesWord, h]

theorem startsWord_eq_false {c : Char} (h : continuesWord c = false) : startsWord c = false := by
  rw [continuesWord, Bool.or_eq_false_iff] at h
  exact h.1

/-- A word is read up to a character that does not continue it. -/
theorem words_append {c : Char} {t rest : Text} (hc : startsWord c) (ht : ∀ d ∈ t, continuesWord d)
    (hRest : ∀ d ∈ rest.head?, continuesWord d = false) :
    words (c :: t ++ rest) = (c :: t) :: words rest := by
  rw [List.cons_append, words_cons_of_startsWord hc, takeWhile_append_of_head? ht hRest,
    dropWhile_append_of_head? ht hRest]

theorem words_eq_singleton {t : Text} (hFirst : ∃ c ∈ t.head?, startsWord c)
    (hAll : ∀ c ∈ t, continuesWord c) : words t = [t] := by
  obtain ⟨c, hc, hStarts⟩ := hFirst
  obtain ⟨rest, rfl⟩ := List.head?_eq_some_iff.1 hc
  rw [List.forall_mem_cons] at hAll
  have hWords : words (c :: rest ++ []) = (c :: rest) :: words [] :=
    words_append hStarts hAll.2 (by simp)
  rwa [List.append_nil, words] at hWords

theorem exists_cons_of_mem_words {t w : Text} (h : w ∈ words t) :
    ∃ c rest, w = c :: rest ∧ startsWord c ∧ ∀ d ∈ rest, continuesWord d := by
  fun_induction words t with
  | case1 => cases h
  | case2 c rest hStarts ih =>
    rcases List.mem_cons.1 h with rfl | h
    · exact ⟨c, _, rfl, hStarts, fun d hd => List.mem_takeWhile_imp hd⟩
    · exact ih h
  | case3 c rest hNot ih => exact ih h

theorem ne_nil_of_mem_words {t w : Text} (h : w ∈ words t) : w ≠ [] := by
  obtain ⟨c, rest, rfl, -, -⟩ := exists_cons_of_mem_words h
  exact List.cons_ne_nil c rest

theorem continuesWord_of_mem_words {t w : Text} (h : w ∈ words t) : ∀ c ∈ w, continuesWord c := by
  obtain ⟨c, rest, rfl, hStarts, hContinues⟩ := exists_cons_of_mem_words h
  rw [List.forall_mem_cons]
  exact ⟨continuesWord_of_startsWord hStarts, hContinues⟩

@[simp] theorem render_word (t : Text) : (word t).render = t := by
  rw [word, Node.render, Node.renderAll_eq_flatMap]
  induction t with
  | nil => rfl
  | cons c t ih => simp [Node.render, ih]

theorem layout_lexeme (t : Text) : (lexeme t).layout =
    (words t).flatten ++
      if t.length - ((words t).getLast?.getD []).length = 1 then t.getLast?.toList else [] := by
  have hSigns (s : Text) : (s.map Node.sign).flatMap Node.render = s := by
    induction s with
    | nil => rfl
    | cons c s ih => simp [Node.sign, Node.render, Leaf.symbol, ih]
  rw [lexeme, Node.layout, Node.renderAll_eq_flatMap, List.flatMap_append, List.flatMap_map]
  congr 1
  · simp [List.flatMap_id']
  · split
    · exact hSigns _
    · rfl

theorem layout_lexeme_of_words {t : Text} (h : words t = [t]) : (lexeme t).layout = t := by
  rw [layout_lexeme, h]
  simp

/-- The last character of the word stands in for the one that is dropped in front of it. -/
theorem layout_lexeme_cons {c : Char} (hc : startsWord c = false) {t : Text} (h : words t = [t]) :
    (lexeme (c :: t)).layout = t ++ (c :: t).getLast?.toList := by
  rw [layout_lexeme, words_cons_of_not_startsWord hc, h]
  simp

end Prose.Parse
