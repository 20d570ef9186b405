import Prose.Proofs.Expr.Candidate

/-!
# Occurrences of expressions

An expression occurs in a text as the fragment of a run that passes every test. The occurrences can
be followed along the scan: a character of another kind belongs to none (`occurs_cons_iff`), and a
run adds at most its own fragment to those behind it (`occurs_append_iff`).
-/

namespace Prose.Expr.Embedded

/-! ### Runs -/

/-- `run` stands between `l` and `r` and is part of no longer run of expression characters. -/
structure IsRun (l run r : Text) : Prop where
  ne_nil : run ≠ []
  chars : ∀ c ∈ run, isExprChar c
  stopsBefore : ∀ c ∈ l.getLast?, isExprChar c = false
  stopsAfter : ∀ c ∈ r.head?, isExprChar c = false

theorem isRun_takeWhile {c : Char} (hc : isExprChar c) (rest : Text) :
    IsRun [] (c :: rest.takeWhile isExprChar) (rest.dropWhile isExprChar) := by
  refine ⟨List.cons_ne_nil c _, ?_, by simp, fun d hd => of_mem_head?_dropWhile hd⟩
  rw [List.forall_mem_cons]
  exact ⟨hc, fun d hd => List.mem_takeWhile_imp hd⟩

namespace IsRun

variable {s l run r : Text}

/-- In a text that starts with another character something stands in front of each run. -/
theorem left_ne_nil (h : IsRun l run r)
    (hHead : ∀ c ∈ (l ++ run ++ r).head?, isExprChar c = false) : l ≠ [] := by
  rintro rfl
  obtain ⟨c, rest, rfl⟩ := List.exists_cons_of_ne_nil h.ne_nil
  have hc : isExprChar c := h.chars c List.mem_cons_self
  rw [hHead c rfl] at hc
  cases hc

theorem of_append_left (h : IsRun (s ++ l) run r) : IsRun l run r := by
  refine ⟨h.ne_nil, h.chars, fun c hc => h.stopsBefore c ?_, h.stopsAfter⟩
  rw [List.getLast?_append, Option.mem_def.1 hc]
  rfl

theorem append_left (h : IsRun l run r) (hs : l = [] → ∀ c ∈ s.getLast?, isExprChar c = false) :
    IsRun (s ++ l) run r := by
  refine ⟨h.ne_nil, h.chars, fun c hc => ?_, h.stopsAfter⟩
  rw [List.getLast?_append, Option.mem_def, Option.or_eq_some_iff] at hc
  rcases hc with hc | ⟨hNone, hc⟩
  · exact h.stopsBefore c hc
  · exact hs (List.getLast?_eq_none_iff.1 hNone) c hc

/-- Of two runs in one text the second is the first or stands behind it. -/
theorem eq_or_exists_append {t l' run' r' : Text} (h : IsRun [] run t)
    (hText : run ++ t = l' ++ run' ++ r') (h' : IsRun l' run' r') :
    (l' = [] ∧ run' = run ∧ r' = t) ∨ ∃ a, l' = run ++ a ∧ t = a ++ run' ++ r' := by
  cases l' with
  | nil =>
    left
    rw [List.nil_append] at hText
    obtain rfl : run = run' := by
      rw [← takeWhile_append_of_head? h.chars h.stopsAfter, hText,
        takeWhile_append_of_head? h'.chars h'.stopsAfter]
    exact ⟨rfl, rfl, (List.append_cancel_left hText).symm⟩
  | cons d l' =>
    right
    rw [List.append_assoc] at hText
    rcases List.append_eq_append_iff.1 hText with ⟨a, hLeft, ht⟩ | ⟨a, hWhole, -⟩
    · exact ⟨a, hLeft, by rw [ht, List.append_assoc]⟩
    · -- a character of `run` would stop `run'`
      have hLast := List.getLast?_eq_some_getLast (List.cons_ne_nil d l')
      have hMem : (d :: l').getLast (List.cons_ne_nil d l') ∈ run := by
        rw [hWhole]
        exact List.mem_append_left a (List.getLast_mem _)
      have hStops := h'.stopsBefore _ hLast
      rw [h.chars _ hMem] at hStops
      cases hStops

end IsRun

/-! ### Occurrences -/

/-- In the text `t`, which follows the character `before`, the fragment `f` of a run stands behind
`d`, passes every test and has the value `v`. -/
def Occurs (before : Option Char) (t d f : Text) (v : Int32) : Prop :=
  ∃ l run r, t = l ++ run ++ r ∧ IsRun l run r ∧ Replaces (l.getLast?.or before) run r.head? v ∧
    d = l ++ (candidate run).left ++ (fragment run).left ∧ f = (fragment run).middle

section

variable {before : Option Char} {t d f : Text} {v : Int32}

theorem not_occurs_nil : ¬ Occurs before [] d f v := by
  rintro ⟨l, run, r, hText, hRun, -⟩
  obtain ⟨hLeft, -⟩ := List.append_eq_nil_iff.1 hText.symm
  exact hRun.ne_nil (List.append_eq_nil_iff.1 hLeft).2

theorem occurs_cons_iff {c : Char} (hc : isExprChar c = false) :
    Occurs before (c :: t) d f v ↔ ∃ d', d = c :: d' ∧ Occurs (some c) t d' f v := by
  have hBefore (l : Text) : (c :: l).getLast?.or before = l.getLast?.or (some c) := by
    rw [← List.singleton_append, List.getLast?_append, Option.or_assoc, List.getLast?_singleton,
      Option.some_or]
  constructor
  · rintro ⟨l, run, r, hText, hRun, hReplaces, rfl, rfl⟩
    have hHead : ∀ e ∈ (l ++ run ++ r).head?, isExprChar e = false := by
      rw [← hText]
      rintro e ⟨⟩
      exact hc
    obtain ⟨e, l, rfl⟩ := List.exists_cons_of_ne_nil (hRun.left_ne_nil hHead)
    obtain ⟨rfl, hRest⟩ := List.cons.inj hText
    rw [hBefore] at hReplaces
    exact ⟨_, rfl, l, run, r, hRest, hRun.of_append_left (s := [c]), hReplaces, rfl, rfl⟩
  · rintro ⟨d', rfl, l, run, r, rfl, hRun, hReplaces, rfl, rfl⟩
    rw [← hBefore] at hReplaces
    refine ⟨c :: l, run, r, rfl, hRun.append_left (s := [c]) fun _ => ?_, hReplaces, rfl, rfl⟩
    rintro e ⟨⟩
    exact hc

/-- A run adds at most its own fragment. -/
theorem occurs_append_iff {run : Text} (hRun : IsRun [] run t) (before' : Option Char) :
    Occurs before (run ++ t) d f v ↔
      (Replaces before run t.head? v ∧ d = (candidate run).left ++ (fragment run).left ∧
        f = (fragment run).middle) ∨
      ∃ d', d = run ++ d' ∧ Occurs before' t d' f v := by
  have hBefore {l : Text} (hl : l ≠ []) :
      (run ++ l).getLast?.or before = l.getLast?.or before' := by
    rw [List.getLast?_append, List.getLast?_eq_some_getLast hl]
    rfl
  constructor
  · rintro ⟨l, run', r, hText, hRun', hReplaces, rfl, rfl⟩
    rcases hRun.eq_or_exists_append hText hRun' with ⟨rfl, rfl, rfl⟩ | ⟨a, rfl, rfl⟩
    · exact .inl ⟨hReplaces, rfl, rfl⟩
    · have hRest := hRun'.of_append_left
      rw [hBefore (hRest.left_ne_nil hRun.stopsAfter)] at hReplaces
      exact .inr ⟨_, by simp only [List.append_assoc], a, run', r, rfl, hRest, hReplaces, rfl, rfl⟩
  · rintro (⟨hReplaces, rfl, rfl⟩ | ⟨d', rfl, l, run', r, rfl, hRun', hReplaces, rfl, rfl⟩)
    · exact ⟨[], run, t, rfl, hRun, hReplaces, rfl, rfl⟩
    · have hNe := hRun'.left_ne_nil hRun.stopsAfter
      rw [← hBefore hNe] at hReplaces
      refine ⟨run ++ l, run', r, ?_, hRun'.append_left fun hNil => absurd hNil hNe, hReplaces, ?_,
        rfl⟩ <;> simp only [List.append_assoc]

end

end Prose.Expr.Embedded
