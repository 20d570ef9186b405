import Prose.Proofs.Expr.Idempotence

/-!
# What substitution does to other characters

The characters that belong to no expression are kept as they are and in their order
(`filter_rewrite`). A run of expression characters stays a run, so a text consists of white space
after the substitution exactly when it did before (`all_isSpace_substitute`).
-/

namespace Prose.Expr.Embedded

theorem isSpace_eq_false_of_isExprChar {c : Char} (h : isExprChar c) : isSpace c = false := by
  rcases isExprChar_iff.1 h with hDigit | hMem
  · have hRange := Decimal.toNat_of_isDigit hDigit
    simp only [isSpace, Bool.or_eq_false_iff, Bool.and_eq_false_iff, decide_eq_false_iff_not]
    omega
  · have hAll : ['~', '(', ')', '+', '*', '|', '^', '&', '<', '>', '-'].all (!isSpace ·) := rfl
    simpa using List.all_eq_true.1 hAll c hMem

/-- The characters that belong to no expression are kept. -/
theorem filter_rewrite (before : Option Char) (t : Text) :
    (rewrite before t).filter (!isExprChar ·) = t.filter (!isExprChar ·) := by
  have hNone {run u : Text} (h : IsRun [] run u) : run.filter (!isExprChar ·) = [] := by
    rw [List.filter_eq_nil_iff]
    intro c hc
    simp [h.chars c hc]
  fun_induction rewrite before t with
  | case1 before => rfl
  | case2 before c rest hc run tail ih =>
    have hText : c :: rest = run ++ tail := by
      rw [List.cons_append, List.takeWhile_append_dropWhile]
    have hRun : IsRun [] run tail := isRun_takeWhile hc rest
    rw [hText, List.filter_append, List.filter_append, ih, hNone hRun,
      hNone (hRun.rewriteRun before tail.head?)]
  | case3 before c rest hc ih => rw [List.filter_cons, List.filter_cons, ih]

theorem mem_substitute_iff {c : Char} (h : isExprChar c = false) (t : Text) :
    c ∈ substitute t ↔ c ∈ t := by
  have hFilter (u : Text) : c ∈ u.filter (!isExprChar ·) ↔ c ∈ u := by
    simp [List.mem_filter, h]
  rw [← hFilter, substitute, filter_rewrite, hFilter]

theorem all_isSpace_rewrite (before : Option Char) (t : Text) :
    (rewrite before t).all isSpace = t.all isSpace := by
  have hRunNot {run u : Text} (h : IsRun [] run u) : run.all isSpace = false := by
    obtain ⟨c, rest, rfl⟩ := List.exists_cons_of_ne_nil h.ne_nil
    rw [List.all_cons, isSpace_eq_false_of_isExprChar (h.chars c List.mem_cons_self),
      Bool.false_and]
  fun_induction rewrite before t with
  | case1 before => rfl
  | case2 before c rest hc run tail ih =>
    have hText : c :: rest = run ++ tail := by
      rw [List.cons_append, List.takeWhile_append_dropWhile]
    have hRun : IsRun [] run tail := isRun_takeWhile hc rest
    rw [hText, List.all_append, List.all_append, hRunNot hRun,
      hRunNot (hRun.rewriteRun before tail.head?), Bool.false_and, Bool.false_and]
  | case3 before c rest hc ih => rw [List.all_cons, List.all_cons, ih]

theorem substitute_ne_nil {t : Text} (h : t ≠ []) : substitute t ≠ [] := by
  unfold substitute
  fun_cases rewrite none t with
  | case1 => exact absurd rfl h
  | case2 c rest hc run tail =>
    exact List.append_ne_nil_of_left_ne_nil
      ((isRun_takeWhile hc rest).rewriteRun none tail.head?).ne_nil _
  | case3 c rest hc => exact List.cons_ne_nil _ _

/-- Substitution neither makes nor removes a text of white space. -/
theorem all_isSpace_substitute (t : Text) : (substitute t).all isSpace = t.all isSpace :=
  all_isSpace_rewrite none t

end Prose.Expr.Embedded
