import Prose.Proofs.Pattern.Language

/-!
# What a pattern finds

The texts of all matches of a pattern, from left to right (`found`), and the preferred match where
the choices of a pattern are clear: the first alternative that matches is taken, and a greedy
repetition of a character takes the whole run of it (`exists_matchEnd?_run`).
-/

namespace Prose

namespace Place

/-- The text between a place and a later one. -/
def textTo (p q : Place) : Text :=
  p.rest.take (q.index - p.index)

theorem Spans.textTo_eq {p q : Place} {w : Text} (h : p.Spans w q) : p.textTo q = w := by
  rw [textTo, h.rest, h.index, Nat.add_sub_cancel_left, List.take_left]

theorem head?_union {ps qs : List Place} {q : Place} (h : ps.head? = some q) :
    (union ps qs).head? = some q := by
  unfold union
  split
  · exact h
  · rw [List.head?_append, h]
    rfl

theorem union_nil_left (qs : List Place) : union [] qs = qs := by
  unfold union
  split
  · rfl
  · rw [List.nil_append, List.filter_eq_self]
    exact fun _ _ => rfl

theorem head?_unionMap {f : Place → List Place} {ps : List Place} {p q : Place}
    (hp : ps.head? = some p) (hq : (f p).head? = some q) : (unionMap f ps).head? = some q := by
  obtain ⟨ps, rfl⟩ := List.head?_eq_some_iff.1 hp
  exact head?_union hq

end Place

namespace Pattern

open Place

/-! ### All matches -/

/-- The texts of the matches from a place on. Right behind a match there is no empty match. -/
def foundFrom (r : Pattern) (p : Place) (behindMatch : Bool) : List Text :=
  match _h : p.rest with
  | [] => if (r.matchEnd? p).isSome && !behindMatch then [[]] else []
  | c :: rest =>
    match r.matchEnd? p with
    | none => foundFrom r (p.after c rest) false
    | some q =>
      if q.rest.length < p.rest.length then p.textTo q :: foundFrom r q true
      else if behindMatch then foundFrom r (p.after c rest) false
      else [] :: foundFrom r (p.after c rest) false
termination_by p.rest.length
decreasing_by
  all_goals simp_all [Place.after]

/-- The texts of all matches, from left to right. -/
def found (r : Pattern) (t : Text) : List Text :=
  r.foundFrom (Place.start t) false

section

variable {r : Pattern} {p q : Place} {w : Text}

theorem foundFrom_eq_cons (hq : r.matchEnd? p = some q) (hSpans : p.Spans w q) (hNe : w ≠ [])
    (behindMatch : Bool) : r.foundFrom p behindMatch = w :: r.foundFrom q true := by
  have hLength : 0 < w.length := List.length_pos_of_ne_nil hNe
  have hShorter : q.rest.length < p.rest.length := by
    rw [hSpans.rest, List.length_append]
    omega
  rw [foundFrom]
  split
  next hRest =>
    rw [hRest] at hShorter
    cases hShorter
  next c rest hRest =>
    rw [hq]
    show (if q.rest.length < p.rest.length then _ else _) = _
    rw [if_pos hShorter, hSpans.textTo_eq]

theorem foundFrom_behind_match (hRest : p.rest = []) : r.foundFrom p true = [] := by
  rw [foundFrom]
  split
  · rw [Bool.not_true, Bool.and_false, if_neg Bool.false_ne_true]
  next c rest hCons =>
    rw [hRest] at hCons
    cases hCons

end

/-! ### Preferred matches -/

theorem head?_prefer_greedy {more : List Place} {q : Place} (h : more.head? = some q) (p : Place) :
    (prefer true more p).head? = some q := by
  rw [prefer, if_pos rfl]
  exact head?_union h

section

variable {r s : Pattern} {p m q : Place}

theorem matchEnd?_cat (hr : r.matchEnd? p = some m) (hs : s.matchEnd? m = some q) :
    (cat r s).matchEnd? p = some q :=
  head?_unionMap hr hs

theorem matchEnd?_alt_left (hr : r.matchEnd? p = some q) : (alt r s).matchEnd? p = some q :=
  head?_union hr

theorem matchEnd?_alt_right (hr : r.matchEnd? p = none) :
    (alt r s).matchEnd? p = s.matchEnd? p := by
  rw [matchEnd?, List.head?_eq_none_iff] at hr
  rw [matchEnd?, ends, hr, union_nil_left, matchEnd?]

end

section Run

/-- A test of one character stops at the end of a run, and within it goes over one character. -/
theorem ends_one_cases (accepts : Char → Bool) (p : Place) :
    ((one accepts).ends p = [] ∧ p.rest.takeWhile accepts = []) ∨
      ∃ c rest, p.rest = c :: rest ∧ accepts c ∧ (one accepts).ends p = [p.after c rest] ∧
        p.rest.takeWhile accepts = c :: rest.takeWhile accepts := by
  rw [ends]
  cases hRest : p.rest with
  | nil => exact .inl ⟨rfl, rfl⟩
  | cons c rest =>
    by_cases hc : accepts c
    · exact .inr ⟨c, rest, rfl, hc, if_pos hc, List.takeWhile_cons_of_pos hc⟩
    · exact .inl ⟨if_neg hc, List.takeWhile_cons_of_neg hc⟩

variable {accepts : Char → Bool} {p : Place} {c : Char} {rest : Text}

/-- The place behind one character and then behind `w`. -/
theorem spans_after {q : Place} {w : Text} (hRest : p.rest = c :: rest)
    (h : (p.after c rest).Spans w q) : p.Spans (c :: w) q := by
  have hFirst : p.Spans [c] (p.after c rest) := ⟨hRest, rfl⟩
  exact hFirst.trans h

/-- Further rounds go to the end of the run. -/
theorem exists_head?_moreRounds {n : Nat} (hFuel : p.rest.length ≤ n) :
    ∃ q, (moreRounds (one accepts).ends true n p).head? = some q ∧
      p.Spans (p.rest.takeWhile accepts) q := by
  induction n generalizing p with
  | zero =>
    have hRest : p.rest = [] := List.length_eq_zero_iff.1 (by omega)
    refine ⟨p, rfl, ?_⟩
    rw [hRest]
    exact .refl p
  | succ n ih =>
    rcases ends_one_cases accepts p with ⟨hEnds, hRun⟩ | ⟨c, rest, hRest, hc, hEnds, hRun⟩
    · refine ⟨p, ?_, ?_⟩
      · rw [moreRounds, hEnds]
        rfl
      · rw [hRun]
        exact .refl p
    · have hShorter : (p.after c rest).rest.length ≤ n := by
        rw [hRest, List.length_cons] at hFuel
        exact Nat.le_of_succ_le_succ hFuel
      obtain ⟨q, hq, hSpans⟩ := ih hShorter
      have hMoved : (p.after c rest).index ≠ p.index := Nat.succ_ne_self p.index
      have hMore : (unionMap (fun m => if m.index = p.index then [] else
          moreRounds (one accepts).ends true n m) [p.after c rest]).head? = some q :=
        head?_unionMap rfl (by rwa [if_neg hMoved])
      refine ⟨q, ?_, ?_⟩
      · rw [moreRounds, hEnds]
        exact head?_prefer_greedy hMore p
      · rw [hRun]
        exact spans_after hRest hSpans

theorem exists_head?_someRounds (hRest : p.rest = c :: rest) (hc : accepts c) :
    ∃ q, (someRounds (one accepts).ends true p).head? = some q ∧
      p.Spans (p.rest.takeWhile accepts) q := by
  have hEnds : (one accepts).ends p = [p.after c rest] := by
    rw [ends, hRest]
    exact if_pos hc
  have hFuel : (p.after c rest).rest.length ≤ rest.length := Nat.le_refl _
  obtain ⟨q, hq, (hSpans : (p.after c rest).Spans (rest.takeWhile accepts) q)⟩ :=
    exists_head?_moreRounds hFuel
  have hMoved : (p.after c rest).index ≠ p.index := Nat.succ_ne_self p.index
  refine ⟨q, ?_, ?_⟩
  · rw [someRounds, hEnds]
    exact head?_unionMap rfl (by rwa [if_neg hMoved])
  · rw [hRest, List.takeWhile_cons_of_pos hc]
    exact spans_after hRest hSpans

/-- A greedy repetition of a character takes the whole run of it. -/
theorem exists_matchEnd?_run (hRest : p.rest = c :: rest) (hc : accepts c) :
    ∃ q, (times (one accepts) 1 none true).matchEnd? p = some q ∧
      p.Spans (p.rest.takeWhile accepts) q :=
  exists_head?_someRounds hRest hc

theorem matchEnd?_run_eq_none (h : ∀ c ∈ p.rest.head?, accepts c = false) :
    (times (one accepts) 1 none true).matchEnd? p = none := by
  rcases ends_one_cases accepts p with ⟨hEnds, -⟩ | ⟨c, rest, hRest, hc, -, -⟩
  · show (someRounds (one accepts).ends true p).head? = none
    rw [someRounds, hEnds]
    rfl
  · rw [h c (by rw [hRest]; rfl)] at hc
    cases hc

/-- A greedy repetition that may be empty takes the run too, and nothing where there is none. -/
theorem exists_matchEnd?_optional_run (accepts : Char → Bool) (p : Place) :
    ∃ q, (times (one accepts) 0 none true).matchEnd? p = some q ∧
      p.Spans (p.rest.takeWhile accepts) q := by
  rcases ends_one_cases accepts p with ⟨hEnds, hRun⟩ | ⟨c, rest, hRest, hc, -, -⟩
  · refine ⟨p, ?_, ?_⟩
    · rw [matchEnd?, ends, someRounds, hEnds]
      rfl
    · rw [hRun]
      exact .refl p
  · obtain ⟨q, hq, hSpans⟩ := exists_head?_someRounds hRest hc
    refine ⟨q, ?_, hSpans⟩
    rw [matchEnd?, ends]
    exact head?_prefer_greedy hq p

end Run

end Pattern

end Prose
