import Mathlib
import Prose.Pattern.Basic

/-!
# Cutting at matches

What the end of a match says about the text it stands in, and the pieces of a text that is cut at
single characters (`split_one`).
-/

namespace Prose

namespace Place

theorem mem_union {ps qs : List Place} {q : Place} (h : q ∈ union ps qs) : q ∈ ps ∨ q ∈ qs := by
  unfold union at h
  split at h
  · exact .inl h
  · exact (List.mem_append.1 h).imp_right fun h => (List.mem_filter.1 h).1

theorem exists_of_mem_unionMap {f : Place → List Place} {ps : List Place} {q : Place}
    (h : q ∈ unionMap f ps) : ∃ p ∈ ps, q ∈ f p := by
  induction ps with
  | nil => cases h
  | cons p ps ih =>
    rcases mem_union h with h | h
    · exact ⟨p, by simp, h⟩
    · obtain ⟨p', hp', h⟩ := ih h
      exact ⟨p', by simp [hp'], h⟩

end Place

namespace Pattern

open Place

theorem mem_prefer {greedy : Bool} {more : List Place} {p q : Place}
    (h : q ∈ prefer greedy more p) : q = p ∨ q ∈ more := by
  unfold prefer at h
  split at h
  · exact (mem_union h).symm.imp_left List.mem_singleton.1
  · exact (mem_union h).imp_left List.mem_singleton.1

section One

variable {accepts : Char → Bool} {p q : Place}

theorem mem_ends_one (h : q ∈ (one accepts).ends p) :
    ∃ c rest, p.rest = c :: rest ∧ accepts c ∧ q = p.after c rest := by
  unfold ends at h
  split at h
  · cases h
  · rename_i c rest hRest
    split at h
    · exact ⟨c, rest, hRest, ‹_›, List.mem_singleton.1 h⟩
    · cases h

end One

/-! ### Cutting at single characters -/

theorem matchEnd?_one {accepts : Char → Bool} {p : Place} {c : Char} {rest : Text}
    (hRest : p.rest = c :: rest) :
    (one accepts).matchEnd? p = if accepts c then some (p.after c rest) else none := by
  obtain ⟨index, last, text⟩ := p
  obtain rfl : text = c :: rest := hRest
  show (if accepts c then [_] else []).head? = _
  split <;> rfl

theorem pieces_one (accepts : Char → Bool) (p : Place) (behindMatch : Bool) :
    (one accepts).pieces p behindMatch = p.rest.splitOnP accepts := by
  have hConsFirst (c : Char) (t : Text) :
      Text.consFirst c (t.splitOnP accepts) = (t.splitOnP accepts).modifyHead (c :: ·) := by
    cases hSplit : t.splitOnP accepts with
    | nil => exact absurd hSplit (List.splitOnP_ne_nil accepts t)
    | cons piece pieces => rfl
  fun_induction pieces (one accepts) p behindMatch with
  | case1 p behindMatch hRest hMatch =>
    rw [matchEnd?, ends, hRest] at hMatch
    cases hMatch
  | case2 p behindMatch hRest hMatch => rw [hRest, List.splitOnP_nil]
  | case3 p behindMatch c rest hRest hNone ih =>
    rw [matchEnd?_one hRest] at hNone
    have hNot : ¬ accepts c := by
      intro hAccepts
      rw [if_pos hAccepts] at hNone
      cases hNone
    rw [ih, hRest, List.splitOnP_cons_eq_if_modifyHead, if_neg hNot]
    exact hConsFirst c rest
  | case4 p behindMatch c rest hRest q hq hShorter ih =>
    rw [matchEnd?_one hRest, Option.ite_none_right_eq_some] at hq
    obtain ⟨hAccepts, hq⟩ := hq
    obtain rfl := Option.some.inj hq
    rw [ih, hRest, List.splitOnP_cons_eq_if_modifyHead, if_pos hAccepts]
    rfl
  | case5 p c rest hRest q hq hNotShorter ih =>
    rw [matchEnd?_one hRest, Option.ite_none_right_eq_some] at hq
    obtain rfl := Option.some.inj hq.2
    simp [Place.after, hRest] at hNotShorter
  | case6 p behindMatch c rest hRest q hq hNotShorter hBehind ih =>
    rw [matchEnd?_one hRest, Option.ite_none_right_eq_some] at hq
    obtain rfl := Option.some.inj hq.2
    simp [Place.after, hRest] at hNotShorter

/-- A pattern of one character cuts where this character stands. -/
theorem split_one (accepts : Char → Bool) (t : Text) :
    (one accepts).split t = t.splitOnP accepts :=
  pieces_one accepts (Place.start t) false

end Pattern

end Prose
