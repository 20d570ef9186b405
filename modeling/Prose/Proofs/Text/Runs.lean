import Mathlib
import Prose.Text

/-!
# Runs of characters

Where a scan stops: `takeWhile` and `dropWhile` at the end of a run that nothing continues, and
texts that have nothing to be trimmed. What a scan takes or leaves at a blank is a question about
five characters (`eq_false_of_isBlank`).
-/

namespace Prose

section

variable {α : Type} {p : α → Bool} {l r : List α}

theorem takeWhile_append_of_head? (hl : ∀ a ∈ l, p a) (hr : ∀ a ∈ r.head?, p a = false) :
    (l ++ r).takeWhile p = l := by
  rw [List.takeWhile_append_of_pos hl]
  cases r with
  | nil => simp
  | cons a r =>
    have ha : p a = false := hr a rfl
    simp [ha]

theorem dropWhile_append_of_head? (hl : ∀ a ∈ l, p a) (hr : ∀ a ∈ r.head?, p a = false) :
    (l ++ r).dropWhile p = r := by
  rw [List.dropWhile_append_of_pos hl]
  cases r with
  | nil => simp
  | cons a r =>
    have ha : p a = false := hr a rfl
    simp [ha]

/-- A scan does not get past an element that it does not take. -/
theorem takeWhile_append_cons_of_neg {a : α} (ha : p a = false) (l r : List α) :
    (l ++ a :: r).takeWhile p = l.takeWhile p := by
  induction l with
  | nil => simp [ha]
  | cons b l ih =>
    rw [List.cons_append, List.takeWhile_cons, List.takeWhile_cons, ih]

theorem dropWhile_append_cons_of_neg {a : α} (ha : p a = false) (l r : List α) :
    (l ++ a :: r).dropWhile p = l.dropWhile p ++ a :: r := by
  induction l with
  | nil => simp [ha]
  | cons b l ih =>
    rw [List.cons_append, List.dropWhile_cons, List.dropWhile_cons, ih]
    split <;> rfl

theorem dropWhile_eq_self_of_head? (h : ∀ a ∈ l.head?, p a = false) : l.dropWhile p = l :=
  dropWhile_append_of_head? (l := []) (by simp) h

/-- What stops a scan is not taken. -/
theorem of_mem_head?_dropWhile {a : α} (h : a ∈ (l.dropWhile p).head?) : p a = false := by
  have hHead := List.head?_dropWhile_not p l
  rw [Option.mem_def.1 h] at hHead
  exact hHead

end

section

variable {p : Char → Bool} {c : Char}

/-- What fails for the five blank characters fails for every blank. -/
theorem eq_false_of_isBlank (hp : [' ', '\t', '\n', '\x0c', '\r'].any p = false) (h : isBlank c) :
    p c = false := by
  rw [List.any_eq_false] at hp
  simp only [isBlank, Bool.or_eq_true, decide_eq_true_eq] at h
  rcases h with (((rfl | rfl) | rfl) | rfl) | rfl <;> simp [hp]

theorem isBlank_eq_false (hp : [' ', '\t', '\n', '\x0c', '\r'].any p = false) (h : p c) :
    isBlank c = false := by
  by_contra hBlank
  rw [eq_false_of_isBlank hp (by simpa using hBlank)] at h
  cases h

end

namespace Text

variable {p : Char → Bool}

theorem dropEnd_append {t r : Text} (ht : ∀ c ∈ t.getLast?, p c = false) (hr : ∀ c ∈ r, p c) :
    dropEnd p (t ++ r) = t := by
  rw [dropEnd, List.reverse_append, dropWhile_append_of_head? (by simpa using hr)
    (by simpa using ht), List.reverse_reverse]

theorem dropEnd_eq_self {t : Text} (h : ∀ c ∈ t.getLast?, p c = false) : dropEnd p t = t := by
  simpa using dropEnd_append (r := []) h (by simp)

theorem exists_append_of_dropEnd (p : Char → Bool) (t : Text) :
    ∃ r, t = dropEnd p t ++ r ∧ ∀ c ∈ r, p c := by
  refine ⟨(t.reverse.takeWhile p).reverse, ?_, fun c hc => ?_⟩
  · rw [dropEnd, ← List.reverse_append, List.takeWhile_append_dropWhile, List.reverse_reverse]
  · exact List.mem_takeWhile_imp (List.mem_reverse.1 hc)

theorem of_mem_getLast?_dropEnd {t : Text} {c : Char} (h : c ∈ (dropEnd p t).getLast?) :
    p c = false := by
  rw [dropEnd, List.getLast?_reverse] at h
  exact of_mem_head?_dropWhile h

theorem trim_eq_self {t : Text} (hFirst : ∀ c ∈ t.head?, isBlank c = false)
    (hLast : ∀ c ∈ t.getLast?, isBlank c = false) : trim t = t := by
  rw [trim, trimBy, dropWhile_eq_self_of_head? hFirst, dropEnd_eq_self hLast]

end Text

end Prose
