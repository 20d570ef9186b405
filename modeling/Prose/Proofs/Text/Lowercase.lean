import Mathlib
import Prose.Text.Lowercase

/-!
# Beginnings of lowercase texts

Most ASCII characters are the lowercase of themselves and of one capital letter only. So a text
whose lowercase starts with such characters starts with them in some letter case
(`map_toLower_take_of_prefix`).
-/

namespace Prose

/-- Whatever is moved to a character is among its preimages. -/
theorem CharMap.eq_or_mem_preimages {m : CharMap} {c d : Char} (hd : d.toNat ≠ 0)
    (h : m.apply c = d) : c = d ∨ c ∈ m.preimages d := by
  unfold apply at h
  split at h
  next s hFind =>
    refine .inr (List.mem_filterMap.2 ⟨s, List.mem_of_find?_eq_some hFind, ?_⟩)
    have hCovers := List.find?_some hFind
    -- no character but the first has the number zero, so the sum is the number of `d`
    have hNumber : d.toNat = ((c.toNat : Int) + s.distance).toNat := by
      rw [← h, Char.toNat_ofNat] at hd ⊢
      split_ifs at hd ⊢ with hValid
      · rfl
      · exact absurd rfl hd
    have hBack : ((d.toNat : Int) - s.distance).toNat = c.toNat := by omega
    simp only [hBack, hCovers, if_true, Char.ofNat_toNat]
  next => exact .inl h

namespace Text

/-- Is `d` the lowercase of itself and its capitals only? -/
def hasOwnCase (d : Char) : Bool :=
  d.toNat ≠ 0 && d ∉ (['i', 'ς', 'σ'] : Text) &&
    (d :: Property.lowercase.preimages d).all (·.toLower = d)

theorem toLower_of_lowerChar {before after t u : Text} {c d : Char} (hd : hasOwnCase d)
    (h : lowerChar before c after ++ t = d :: u) : c.toLower = d ∧ t = u := by
  simp only [hasOwnCase, Bool.and_eq_true, decide_eq_true_eq, List.all_eq_true] at hd
  obtain ⟨⟨hZero, hOther⟩, hCase⟩ := hd
  unfold lowerChar at h
  split_ifs at h with hDotted hSigma hFinal
  · exact absurd ((List.cons.inj h).1 ▸ by decide) hOther
  · exact absurd ((List.cons.inj h).1 ▸ by decide) hOther
  · exact absurd ((List.cons.inj h).1 ▸ by decide) hOther
  · obtain ⟨hMoved, hRest⟩ := List.cons.inj h
    refine ⟨hCase c (List.mem_cons.2 ?_), hRest⟩
    exact CharMap.eq_or_mem_preimages hZero hMoved

theorem map_toLower_take_of_prefix {before p t : Text} (hp : ∀ d ∈ p, hasOwnCase d)
    (h : p <+: lowerAfter before t) : (t.take p.length).map Char.toLower = p := by
  induction p generalizing before t with
  | nil => rfl
  | cons d p ih =>
    rw [List.forall_mem_cons] at hp
    obtain ⟨u, hu⟩ := h
    cases t with
    | nil => cases hu
    | cons c t =>
      rw [lowerAfter, List.cons_append] at hu
      obtain ⟨hLower, hRest⟩ := toLower_of_lowerChar hp.1 hu.symm
      rw [List.length_cons, List.take_succ_cons, List.map_cons, hLower, ih hp.2 ⟨u, hRest.symm⟩]

end Text

end Prose
