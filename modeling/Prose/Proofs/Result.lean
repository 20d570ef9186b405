import Mathlib

/-!
# Composed results

A step that follows another has a result exactly when both have one, and renaming a result leaves
the faults as they are.
-/

namespace Prose

variable {ε α β : Type} {x : Except ε α}

theorem bind_eq_ok_iff {k : α → Except ε β} {b : β} :
    x >>= k = .ok b ↔ ∃ a, x = .ok a ∧ k a = .ok b := by
  cases x with
  | error e => exact ⟨nofun, nofun⟩
  | ok a =>
    refine ⟨fun h => ⟨a, rfl, h⟩, ?_⟩
    rintro ⟨a', hx, h⟩
    cases hx
    exact h

theorem map_eq_ok_iff {f : α → β} {b : β} : f <$> x = .ok b ↔ ∃ a, x = .ok a ∧ f a = b := by
  cases x with
  | error e => exact ⟨nofun, nofun⟩
  | ok a => simp

theorem map_eq_error_iff {f : α → β} {e : ε} : f <$> x = .error e ↔ x = .error e := by
  cases x <;> simp

/-- Every result of a traversal is the result of one of its steps. -/
theorem exists_of_mem_mapM {f : α → Except ε β} {as : List α} {bs : List β}
    (h : as.mapM f = .ok bs) {b : β} (hb : b ∈ bs) : ∃ a ∈ as, f a = .ok b := by
  induction as generalizing bs with
  | nil =>
    cases h
    cases hb
  | cons a as ih =>
    rw [List.mapM_cons] at h
    obtain ⟨b', hFirst, h⟩ := bind_eq_ok_iff.1 h
    obtain ⟨bs', hRest, h⟩ := bind_eq_ok_iff.1 h
    cases h
    rcases List.mem_cons.1 hb with rfl | hb
    · exact ⟨a, List.mem_cons_self, hFirst⟩
    · obtain ⟨a', hMem, ha'⟩ := ih hRest hb
      exact ⟨a', List.mem_cons_of_mem _ hMem, ha'⟩

end Prose
