import Prose.Proofs.Text.Runs

/-!
# Trimming

What stands at the ends of a text when the blanks there are cut off (`IsTrimmed`), how trimming goes
through one more character in front, and the trimmed pieces of a text (`trimmed`).
-/

namespace Prose.Text

variable {p : Char → Bool} {c : Char} {t : Text}

theorem dropEnd_cons_of_neg (h : p c = false) (t : Text) :
    dropEnd p (c :: t) = c :: dropEnd p t := by
  rw [dropEnd, dropEnd, List.reverse_cons, dropWhile_append_cons_of_neg h, List.reverse_append,
    List.reverse_singleton, List.singleton_append]

theorem dropEnd_cons_of_ne_nil (c : Char) (h : dropEnd p t ≠ []) :
    dropEnd p (c :: t) = c :: dropEnd p t := by
  have hDrop : (t.reverse.dropWhile p).isEmpty = false := by
    simpa [dropEnd] using h
  rw [dropEnd, dropEnd, List.reverse_cons, List.dropWhile_append, hDrop, if_neg (by decide),
    List.reverse_append, List.reverse_singleton, List.singleton_append]

theorem dropEnd_eq_nil (h : ∀ c ∈ t, p c) : dropEnd p t = [] :=
  dropEnd_append (t := []) (by simp) h

theorem trim_cons_of_isBlank (h : isBlank c) (t : Text) : trim (c :: t) = trim t := by
  rw [trim, trim, trimBy, trimBy, List.dropWhile_cons_of_pos h]

theorem trim_cons_of_not_isBlank (h : isBlank c = false) (t : Text) :
    trim (c :: t) = c :: dropEnd isBlank t := by
  rw [trim, trimBy, List.dropWhile_cons_of_neg (by simp [h]), dropEnd_cons_of_neg h]

theorem trim_eq_nil_iff : trim t = [] ↔ ∀ c ∈ t, isBlank c := by
  induction t with
  | nil => simp [trim, trimBy, dropEnd]
  | cons c t ih =>
    rw [List.forall_mem_cons]
    by_cases hBlank : isBlank c
    · rw [trim_cons_of_isBlank hBlank, ih]
      simp [hBlank]
    · have hBlank : isBlank c = false := by simpa using hBlank
      rw [trim_cons_of_not_isBlank hBlank]
      simp [hBlank]

/-- What is cut off at the end is cut off at both ends, but for the blanks in front. -/
theorem dropEnd_eq_append_trim (h : trim t ≠ []) :
    dropEnd isBlank t = t.takeWhile isBlank ++ trim t := by
  induction t with
  | nil => exact absurd rfl h
  | cons c t ih =>
    by_cases hBlank : isBlank c
    · rw [trim_cons_of_isBlank hBlank] at h ⊢
      have hNe : dropEnd isBlank t ≠ [] := by
        rw [ih h]
        simp [h]
      rw [List.takeWhile_cons_of_pos hBlank, List.cons_append, dropEnd_cons_of_ne_nil c hNe, ih h]
    · have hBlank : isBlank c = false := by simpa using hBlank
      rw [trim_cons_of_not_isBlank hBlank, dropEnd_cons_of_neg hBlank,
        List.takeWhile_cons_of_neg (by simp [hBlank]), List.nil_append]

/-- Not empty, and without blanks at the ends. -/
structure IsTrimmed (t : Text) : Prop where
  ne_nil : t ≠ []
  head : ∀ c ∈ t.head?, isBlank c = false
  last : ∀ c ∈ t.getLast?, isBlank c = false

theorem IsTrimmed.trim_eq (h : IsTrimmed t) : trim t = t :=
  trim_eq_self h.head h.last

theorem isTrimmed_of_forall (hNe : t ≠ []) (h : ∀ c ∈ t, isBlank c = false) : IsTrimmed t :=
  ⟨hNe, fun c hc => h c (List.mem_of_head? hc), fun c hc => h c (List.mem_of_getLast? hc)⟩

theorem isTrimmed_trim (h : trim t ≠ []) : IsTrimmed (trim t) := by
  refine ⟨h, fun c hc => ?_, fun c hc => of_mem_getLast?_dropEnd hc⟩
  obtain ⟨r, hr, -⟩ := exists_append_of_dropEnd isBlank (t.dropWhile isBlank)
  have hHead : c ∈ (t.dropWhile isBlank).head? := by
    rw [hr, List.head?_append]
    exact Option.or_eq_some_iff.2 (.inl hc)
  exact of_mem_head?_dropWhile hHead

/-! ### Trimmed pieces -/

/-- The pieces without the blanks at their ends; those that are empty then are left out. -/
def trimmed (pieces : List Text) : List Text :=
  (pieces.map trim).filter (!·.isEmpty)

theorem trimmed_append (pieces pieces' : List Text) :
    trimmed (pieces ++ pieces') = trimmed pieces ++ trimmed pieces' := by
  rw [trimmed, List.map_append, List.filter_append]
  rfl

theorem trimmed_cons (piece : Text) (pieces : List Text) :
    trimmed (piece :: pieces) = trimmed [piece] ++ trimmed pieces :=
  trimmed_append [piece] pieces

theorem trimmed_singleton_of_ne_nil (h : trim t ≠ []) : trimmed [t] = [trim t] := by
  simpa [trimmed] using h

theorem trimmed_singleton_of_eq_nil (h : trim t = []) : trimmed [t] = [] := by
  simp [trimmed, h]

theorem trimmed_consFirst_of_isBlank {c : Char} (h : isBlank c) (pieces : List Text) :
    trimmed (consFirst c pieces) = trimmed pieces := by
  cases pieces with
  | nil => exact trimmed_singleton_of_eq_nil (trim_cons_of_isBlank h [])
  | cons piece pieces => simp only [consFirst, trimmed, List.map_cons, trim_cons_of_isBlank h]

theorem isTrimmed_of_mem_trimmed {pieces : List Text} (h : t ∈ trimmed pieces) : IsTrimmed t := by
  obtain ⟨hMem, hNe⟩ := List.mem_filter.1 h
  obtain ⟨piece, -, rfl⟩ := List.mem_map.1 hMem
  exact isTrimmed_trim (by simpa using hNe)

theorem trimmed_eq_self {pieces : List Text} (h : ∀ t ∈ pieces, IsTrimmed t) :
    trimmed pieces = pieces := by
  have hMap : pieces.map trim = pieces := by
    refine (List.map_congr_left fun t ht => ?_).trans (List.map_id pieces)
    exact (h t ht).trim_eq
  rw [trimmed, hMap, List.filter_eq_self]
  intro t ht
  simp [(h t ht).ne_nil]

end Prose.Text
