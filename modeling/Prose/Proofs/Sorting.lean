import Mathlib

/-!
# Stable sorting

A stable sort by a key brings a list into the order of the keys and leaves elements with the same
key in their order. These two conditions leave one list only (`IsStableSort.unique`), and merge
sort makes it (`isStableSort_mergeSort`). Where no two elements have the same key, the order of the
input does not matter either (`IsStableSort.eq_of_perm`), and dropping the repetitions of a sorted
list leaves each of its elements once (`pairwise_lt_eraseReps`).
-/

namespace Prose

variable {α κ : Type} [LinearOrder κ] {key : α → κ} {l l' : List α}

/-- The elements of `l` in ascending order of their keys, those with the same key as they stand
in `l`. -/
structure IsStableSort (key : α → κ) (l sorted : List α) : Prop where
  perm : sorted.Perm l
  ordered : sorted.Pairwise fun a b => key a ≤ key b
  ties : ∀ k, sorted.filter (key · = k) = l.filter (key · = k)

/-! ### One list only -/

theorem key_le_of_mem {a b : α} (h : (a :: l).Pairwise fun a b => key a ≤ key b)
    (hb : b ∈ a :: l) : key a ≤ key b := by
  rcases List.mem_cons.1 hb with rfl | hb
  · exact le_refl (key b)
  · exact (List.pairwise_cons.1 h).1 b hb

theorem mem_of_ties (h : ∀ k, l.filter (key · = k) = l'.filter (key · = k)) {a : α} (ha : a ∈ l) :
    a ∈ l' := by
  have hClass : a ∈ l.filter (key · = key a) := List.mem_filter.2 ⟨ha, by simp⟩
  rw [h] at hClass
  exact (List.mem_filter.1 hClass).1

/-- Two lists in the order of the keys are the same if they are the same for each key. -/
theorem eq_of_ordered_of_ties (h : l.Pairwise fun a b => key a ≤ key b)
    (h' : l'.Pairwise fun a b => key a ≤ key b)
    (hTies : ∀ k, l.filter (key · = k) = l'.filter (key · = k)) : l = l' := by
  induction l generalizing l' with
  | nil =>
    rw [eq_comm, List.eq_nil_iff_forall_not_mem]
    intro b hb
    cases mem_of_ties (fun k => (hTies k).symm) hb
  | cons a l ih =>
    cases l' with
    | nil => cases mem_of_ties hTies List.mem_cons_self
    | cons b l' =>
      -- each of the two first elements has the least key
      have hKey : key a = key b := by
        refine le_antisymm (key_le_of_mem h ?_) (key_le_of_mem h' ?_)
        · exact mem_of_ties (fun k => (hTies k).symm) List.mem_cons_self
        · exact mem_of_ties hTies List.mem_cons_self
      have hFirst : a = b := by
        have hClass := hTies (key a)
        rw [List.filter_cons_of_pos (by simp), List.filter_cons_of_pos (by simp [hKey])] at hClass
        exact (List.cons.inj hClass).1
      subst hFirst
      have hRest (k : κ) : l.filter (key · = k) = l'.filter (key · = k) := by
        have hClass := hTies k
        by_cases hk : key a = k
        · rw [List.filter_cons_of_pos (by simp [hk]), List.filter_cons_of_pos (by simp [hk])]
            at hClass
          exact (List.cons.inj hClass).2
        · rwa [List.filter_cons_of_neg (by simp [hk]), List.filter_cons_of_neg (by simp [hk])]
            at hClass
      rw [ih (List.pairwise_cons.1 h).2 (List.pairwise_cons.1 h').2 hRest]

theorem IsStableSort.unique {sorted sorted' : List α} (h : IsStableSort key l sorted)
    (h' : IsStableSort key l sorted') : sorted = sorted' :=
  eq_of_ordered_of_ties h.ordered h'.ordered fun k => (h.ties k).trans (h'.ties k).symm

/-- With a key for each element, lists of the same elements are sorted alike. -/
theorem IsStableSort.eq_of_perm {sorted sorted' : List α} (h : IsStableSort key l sorted)
    (h' : IsStableSort key l' sorted') (hKey : Function.Injective key) (hPerm : l.Perm l') :
    sorted = sorted' := by
  refine List.Perm.eq_of_pairwise ?_ h.ordered h'.ordered ?_
  · intro a b _ _ hab hba
    exact hKey (le_antisymm hab hba)
  · exact h.perm.trans (hPerm.trans h'.perm.symm)

/-! ### Merge sort -/

section

variable {le : α → α → Bool} (hLe : ∀ a b, le a b ↔ key a ≤ key b)
include hLe

theorem trans_of_key (a b c : α) (hab : le a b) (hbc : le b c) : le a c := by
  rw [hLe] at hab hbc ⊢
  exact hab.trans hbc

theorem total_of_key (a b : α) : le a b || le b a := by
  rw [Bool.or_eq_true, hLe, hLe]
  exact le_total (key a) (key b)

/-- The elements with one key are in order already, so they come out as they stand. -/
theorem filter_mergeSort (l : List α) (k : κ) :
    (l.mergeSort le).filter (key · = k) = l.filter (key · = k) := by
  have hKey : ∀ a ∈ l.filter (key · = k), key a = k :=
    fun a ha => by simpa using (List.mem_filter.1 ha).2
  have hSame : (l.filter (key · = k)).Pairwise (le · ·) := by
    refine List.pairwise_of_forall_mem_list fun a ha b hb => ?_
    rw [hLe, hKey a ha, hKey b hb]
  have hSublist : (l.filter (key · = k)).Sublist ((l.mergeSort le).filter (key · = k)) := by
    have hKept := (List.sublist_mergeSort (trans_of_key hLe) (total_of_key hLe) hSame
      List.filter_sublist).filter (key · = k)
    rwa [List.filter_eq_self.2 (by simp)] at hKept
  have hPerm := (List.mergeSort_perm l le).filter (key · = k)
  exact (hSublist.eq_of_length hPerm.length_eq.symm).symm

theorem isStableSort_mergeSort (l : List α) : IsStableSort key l (l.mergeSort le) where
  perm := List.mergeSort_perm l le
  ordered := (List.pairwise_mergeSort (trans_of_key hLe) (total_of_key hLe) l).imp (hLe _ _).1
  ties := filter_mergeSort hLe l

theorem isStableSort_iff {sorted : List α} :
    IsStableSort key l sorted ↔ sorted = l.mergeSort le := by
  constructor
  · exact fun h => h.unique (isStableSort_mergeSort hLe l)
  · rintro rfl
    exact isStableSort_mergeSort hLe l

end

/-! ### Repetitions -/

section

variable {β : Type} [BEq β]

/-- The loop goes on behind what it has kept. -/
theorem eraseReps_loop (a : β) (l kept : List β) :
    List.eraseRepsBy.loop (· == ·) a l kept = kept.reverse ++ (a :: l).eraseReps := by
  induction l generalizing a kept with
  | nil => exact List.reverse_cons
  | cons b l ih =>
    rw [List.eraseReps, List.eraseRepsBy, List.eraseRepsBy.loop, List.eraseRepsBy.loop]
    cases a == b with
    | true => exact ih a kept
    | false =>
      simp only [ih, List.reverse_cons, List.reverse_nil, List.append_assoc, List.nil_append]

theorem eraseReps_cons_cons (a b : β) (l : List β) : (a :: b :: l).eraseReps =
    if a == b then (a :: l).eraseReps else a :: (b :: l).eraseReps := by
  rw [List.eraseReps, List.eraseRepsBy, List.eraseRepsBy.loop]
  cases a == b with
  | true => rfl
  | false => exact eraseReps_loop b l [a]

theorem mem_eraseReps [LawfulBEq β] {a : β} {l : List β} : a ∈ l.eraseReps ↔ a ∈ l := by
  cases l with
  | nil => rfl
  | cons b l =>
    induction l generalizing b with
    | nil => rfl
    | cons c l ih =>
      rw [eraseReps_cons_cons]
      split
      next h => rw [ih, ← eq_of_beq h, List.mem_cons, List.mem_cons, List.mem_cons, or_self_left]
      next => rw [List.mem_cons, ih, ← List.mem_cons]

end

/-- A sorted list without its repetitions has each element once. -/
theorem pairwise_lt_eraseReps [BEq κ] [LawfulBEq κ] {keys : List κ}
    (h : keys.Pairwise (· ≤ ·)) : keys.eraseReps.Pairwise (· < ·) := by
  cases keys with
  | nil => exact .nil
  | cons a keys =>
    induction keys generalizing a with
    | nil => exact List.pairwise_singleton _ a
    | cons b keys ih =>
      obtain ⟨hFirst, hLater⟩ := List.pairwise_cons.1 h
      rw [eraseReps_cons_cons]
      split
      next hSame =>
        rw [eq_of_beq hSame]
        exact ih b hLater
      next hNew =>
        have hLt : a < b := by
          refine lt_of_le_of_ne (hFirst b List.mem_cons_self) fun hEq => hNew ?_
          exact beq_iff_eq.2 hEq
        refine List.pairwise_cons.2 ⟨fun c hc => ?_, ih b hLater⟩
        have hLe : id b ≤ id c := key_le_of_mem hLater (mem_eraseReps.1 hc)
        exact lt_of_lt_of_le hLt hLe

end Prose
