import Mathlib
import Prose.Text

/-!
# Texts that lose characters

A stage that cuts a text leaves some characters out and keeps the others in their order.
`Loses p t s` says this of one kind of characters: `s` is `t` without some of those that satisfy
`p`. The relation goes through joining and through one stage after the other, so a scan needs it for
its steps only.
-/

namespace Prose.Text

variable {p q : Char → Bool} {t s r : Text}

/-- `s` is `t` without some of its characters that satisfy `p`. -/
structure Loses (p : Char → Bool) (t s : Text) : Prop where
  sublist : s.Sublist t
  kept : s.filter (!p ·) = t.filter (!p ·)

namespace Loses

theorem refl (p : Char → Bool) (t : Text) : Loses p t t :=
  ⟨List.Sublist.refl t, rfl⟩

theorem trans (h : Loses p t s) (g : Loses p s r) : Loses p t r :=
  ⟨g.sublist.trans h.sublist, g.kept.trans h.kept⟩

theorem append {t' s' : Text} (h : Loses p t s) (g : Loses p t' s') :
    Loses p (t ++ t') (s ++ s') := by
  refine ⟨h.sublist.append g.sublist, ?_⟩
  rw [List.filter_append, List.filter_append, h.kept, g.kept]

theorem cons (c : Char) (h : Loses p t s) : Loses p (c :: t) (c :: s) :=
  (refl p [c]).append h

/-- A text of such characters may be lost as a whole. -/
theorem nil (h : ∀ c ∈ t, p c) : Loses p t [] := by
  refine ⟨List.nil_sublist t, ?_⟩
  rw [List.filter_nil, eq_comm, List.filter_eq_nil_iff]
  simpa using h

theorem append_left {l : Text} (hl : ∀ c ∈ l, p c) (h : Loses p t s) : Loses p (l ++ t) s :=
  (nil hl).append h

theorem reverse (h : Loses p t s) : Loses p t.reverse s.reverse := by
  refine ⟨h.sublist.reverse, ?_⟩
  rw [List.filter_reverse, List.filter_reverse, h.kept]

/-- Cutting each piece further loses what the cuts lose. -/
theorem flatten_flatMap {pieces : List Text} {f : Text → List Text}
    (h : ∀ s ∈ pieces, Loses p s (f s).flatten) :
    Loses p pieces.flatten (pieces.flatMap f).flatten := by
  induction pieces with
  | nil => exact refl p []
  | cons s pieces ih =>
    rw [List.forall_mem_cons] at h
    rw [List.flatMap_cons, List.flatten_append, List.flatten_cons]
    exact h.1.append (ih h.2)

theorem flatten_map {pieces : List Text} {f : Text → Text} (h : ∀ s ∈ pieces, Loses p s (f s)) :
    Loses p pieces.flatten (pieces.map f).flatten := by
  rw [List.map_eq_flatMap]
  exact flatten_flatMap fun s hs => by simpa using h s hs

theorem mono (hpq : ∀ c, p c → q c) (h : Loses p t s) : Loses q t s := by
  refine ⟨h.sublist, ?_⟩
  have hTwice (u : Text) : u.filter (!q ·) = (u.filter (!p ·)).filter (!q ·) := by
    rw [List.filter_filter]
    refine List.filter_congr fun c _ => ?_
    cases hp : p c
    · simp
    · simp [hpq c hp]
  rw [hTwice s, h.kept, ← hTwice t]

/-- Characters of any other kind are all kept. -/
theorem filter_eq (h : Loses p t s) (hq : ∀ c, q c → p c = false) : s.filter q = t.filter q := by
  have hOnly : Loses (!q ·) t s := h.mono fun c hc => by
    cases hqc : q c
    · rfl
    · simp [hq c hqc] at hc
  simpa using hOnly.kept

/-- A character of another kind is not lost. -/
theorem mem_of_mem {c : Char} (h : Loses p t s) (hc : c ∈ t) (hp : p c = false) : c ∈ s := by
  have hKept : c ∈ s.filter (!p ·) := by
    rw [h.kept]
    exact List.mem_filter.2 ⟨hc, by simp [hp]⟩
  exact (List.mem_filter.1 hKept).1

end Loses

theorem loses_dropWhile (p : Char → Bool) (t : Text) : Loses p t (t.dropWhile p) := by
  have hLost : Loses p (t.takeWhile p ++ t.dropWhile p) (t.dropWhile p) :=
    .append_left (fun c hc => List.mem_takeWhile_imp hc) (.refl p _)
  rwa [List.takeWhile_append_dropWhile] at hLost

theorem loses_dropEnd (p : Char → Bool) (t : Text) : Loses p t (dropEnd p t) := by
  have hLost := (loses_dropWhile p t.reverse).reverse
  rwa [List.reverse_reverse] at hLost

theorem loses_trim (t : Text) : Loses isBlank t t.trim :=
  (loses_dropWhile isBlank t).trans (loses_dropEnd isBlank _)

theorem flatten_consFirst (c : Char) (pieces : List Text) :
    (consFirst c pieces).flatten = c :: pieces.flatten := by
  cases pieces <;> rfl

end Prose.Text
