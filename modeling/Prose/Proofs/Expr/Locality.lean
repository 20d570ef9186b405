import Prose.Expr.Embedded
import Prose.Proofs.Text.Runs

/-!
# Substitution is local

A neutral character belongs to no expression and glues none to a word, so it cuts a text into two
parts that are rewritten without regard to each other (`rewrite_append_cons`). A run sees the
characters on its two sides only to refuse operators and word characters there, and to a neutral
neighbour it answers as to none.
-/

namespace Prose.Expr.Embedded

/-- The characters that neither belong to an expression nor to a word. -/
def isNeutral (c : Char) : Bool :=
  !isWordChar c && !isExprChar c

section Neutral

variable {c : Char}

theorem isWordChar_of_isNeutral (h : isNeutral c) : isWordChar c = false := by
  simp only [isNeutral, Bool.and_eq_true, Bool.not_eq_true'] at h
  exact h.1

theorem isExprChar_of_isNeutral (h : isNeutral c) : isExprChar c = false := by
  simp only [isNeutral, Bool.and_eq_true, Bool.not_eq_true'] at h
  exact h.2

theorem isOperatorChar_of_isNeutral (h : isNeutral c) : isOperatorChar c = false := by
  have hExpr := isExprChar_of_isNeutral h
  simp only [isExprChar, Bool.or_eq_false_iff] at hExpr
  exact hExpr.1.1.2

theorem any_or_some_of_neg {p : Char → Bool} (h : p c = false) (o : Option Char) :
    (o.or (some c)).any p = o.any p := by
  cases o <;> simp [h]

theorem rewrite_cons_of_isExprChar {d : Char} (hd : isExprChar d) (before : Option Char)
    (rest : Text) :
    rewrite before (d :: rest) =
      rewriteRun before (d :: rest.takeWhile isExprChar) (rest.dropWhile isExprChar).head?
        ++ rewrite (d :: rest.takeWhile isExprChar).getLast? (rest.dropWhile isExprChar) := by
  rw [rewrite, if_pos hd]

theorem rewrite_cons_of_not_isExprChar {d : Char} (hd : isExprChar d = false)
    (before : Option Char) (rest : Text) :
    rewrite before (d :: rest) = d :: rewrite (some d) rest := by
  rw [rewrite, if_neg (by simp [hd])]

/-- A run and what follows it are rewritten one after the other. -/
theorem rewrite_append {run t : Text} (hRun : ∀ d ∈ run, isExprChar d) (hNe : run ≠ [])
    (ht : ∀ d ∈ t.head?, isExprChar d = false) (before : Option Char) :
    rewrite before (run ++ t) = rewriteRun before run t.head? ++ rewrite run.getLast? t := by
  obtain ⟨d, rest, rfl⟩ := List.exists_cons_of_ne_nil hNe
  rw [List.forall_mem_cons] at hRun
  rw [List.cons_append, rewrite_cons_of_isExprChar hRun.1, takeWhile_append_of_head? hRun.2 ht,
    dropWhile_append_of_head? hRun.2 ht]

theorem rewrite_of_isExprChar {run : Text} (hRun : ∀ d ∈ run, isExprChar d) (hNe : run ≠ [])
    (before : Option Char) : rewrite before run = rewriteRun before run none := by
  have hAppend := rewrite_append (t := []) hRun hNe (by simp) before
  rwa [List.append_nil, rewrite.eq_1, List.append_nil] at hAppend

theorem head?_rewrite {t : Text} (ht : ∀ d ∈ t.head?, isExprChar d = false)
    (before : Option Char) : (rewrite before t).head? = t.head? := by
  cases t with
  | nil => rw [rewrite]
  | cons d rest => rw [rewrite_cons_of_not_isExprChar (ht d rfl), List.head?_cons, List.head?_cons]

/-- In front of a run a neutral character counts as none. -/
theorem rewriteRun_before (h : isNeutral c) (before : Option Char) (run : Text)
    (after : Option Char) :
    rewriteRun (before.or (some c)) run after = rewriteRun before run after := by
  simp only [rewriteRun, ← Option.or_assoc, any_or_some_of_neg (isWordChar_of_isNeutral h),
    any_or_some_of_neg (isOperatorChar_of_isNeutral h)]

/-- Behind a run a neutral character counts as none. -/
theorem rewriteRun_after (h : isNeutral c) (before : Option Char) (run : Text)
    (after : Option Char) :
    rewriteRun before run (after.or (some c)) = rewriteRun before run after := by
  simp only [rewriteRun, ← Option.or_assoc, any_or_some_of_neg (isWordChar_of_isNeutral h),
    any_or_some_of_neg (isOperatorChar_of_isNeutral h)]

theorem rewrite_some_of_isNeutral (h : isNeutral c) (t : Text) :
    rewrite (some c) t = rewrite none t := by
  cases t with
  | nil => rw [rewrite, rewrite]
  | cons d rest =>
    have hRun := rewriteRun_before h none
    rw [Option.none_or] at hRun
    rw [rewrite, rewrite]
    simp only [hRun]

/-- A neutral character cuts a text into two that are rewritten apart. -/
theorem rewrite_append_cons (h : isNeutral c) (before : Option Char) (s t : Text) :
    rewrite before (s ++ c :: t) = rewrite before s ++ c :: rewrite none t := by
  have hExpr := isExprChar_of_isNeutral h
  fun_induction rewrite before s with
  | case1 before =>
    rw [List.nil_append, rewrite_cons_of_not_isExprChar hExpr, rewrite_some_of_isNeutral h]
    rfl
  | case2 before d rest hd run tail ih =>
    rw [List.cons_append, rewrite_cons_of_isExprChar hd, takeWhile_append_cons_of_neg hExpr,
      dropWhile_append_cons_of_neg hExpr, List.head?_append, List.head?_cons, rewriteRun_after h,
      List.append_assoc, ← ih]
  | case3 before d rest hd ih =>
    rw [List.cons_append, rewrite_cons_of_not_isExprChar (by simpa using hd), ih, List.cons_append]

end Neutral

theorem substitute_append_of_getLast? {s : Text} (h : ∀ c ∈ s.getLast?, isNeutral c) (t : Text) :
    substitute (s ++ t) = substitute s ++ substitute t := by
  rcases List.eq_nil_or_concat s with rfl | ⟨s, c, rfl⟩
  · simp [substitute, rewrite]
  · rw [List.concat_eq_append] at h ⊢
    have hc : isNeutral c := h c (by simp)
    have hEnd : rewrite none (s ++ [c]) = rewrite none s ++ [c] := by
      rw [rewrite_append_cons hc, rewrite]
    rw [substitute, substitute, substitute, hEnd, List.append_assoc, List.singleton_append,
      rewrite_append_cons hc, List.append_assoc, List.singleton_append]

theorem substitute_append_of_head? {t : Text} (h : ∀ c ∈ t.head?, isNeutral c) (s : Text) :
    substitute (s ++ t) = substitute s ++ substitute t := by
  cases t with
  | nil => simp [substitute, rewrite]
  | cons c t =>
    have hc : isNeutral c := h c rfl
    rw [substitute, substitute, substitute, rewrite_append_cons hc,
      rewrite_cons_of_not_isExprChar (isExprChar_of_isNeutral hc), rewrite_some_of_isNeutral hc]

theorem isExprChar_iff {c : Char} :
    isExprChar c ↔ c.isDigit ∨ c ∈ ['~', '(', ')', '+', '*', '|', '^', '&', '<', '>', '-'] := by
  simp only [isExprChar, isOperatorChar, List.mem_cons, List.not_mem_nil, or_false,
    Bool.or_eq_true, decide_eq_true_eq]
  tauto

theorem isWordChar_of_isDigit {c : Char} (h : c.isDigit) : isWordChar c := by
  simp [isWordChar, Char.isAlphanum, h]

theorem isNeutral_iff {c : Char} : isNeutral c ↔ ¬ isWordChar c ∧
    c ∉ ['~', '(', ')', '+', '*', '|', '^', '&', '<', '>', '-'] := by
  rw [isNeutral, Bool.and_eq_true, Bool.not_eq_true', Bool.not_eq_true', ← Bool.not_eq_true,
    ← Bool.not_eq_true, isExprChar_iff]
  constructor
  · rintro ⟨hWord, hExpr⟩
    exact ⟨hWord, fun hMem => hExpr (.inr hMem)⟩
  · rintro ⟨hWord, hMem⟩
    refine ⟨hWord, ?_⟩
    rintro (hDigit | hExpr)
    · exact hWord (isWordChar_of_isDigit hDigit)
    · exact hMem hExpr

/-- A character that is neither a word character nor one of expressions cuts every text into two
that are substituted apart, whole expressions or not. -/
theorem substitute_append_cons {c : Char} (hWord : ¬ isWordChar c)
    (hExpr : c ∉ ['~', '(', ')', '+', '*', '|', '^', '&', '<', '>', '-']) (s t : Text) :
    substitute (s ++ c :: t) = substitute s ++ c :: substitute t := by
  have hNeutral : isNeutral c := isNeutral_iff.2 ⟨hWord, hExpr⟩
  exact rewrite_append_cons hNeutral none s t

/-- Two brackets on the two sides of a space are no partners, and each half is substituted as if it
stood alone. -/
theorem substitute_brackets_around_space :
    ¬ isWordChar ' ' ∧
      ' ' ∉ ['~', '(', ')', '+', '*', '|', '^', '&', '<', '>', '-'] ∧
      substitute ("2*(1+2".toList ++ ' ' :: "3-8)".toList) =
        "2*(1+2".toList ++ ' ' :: "-5)".toList := by
  have hLeft : substitute "2*(1+2".toList = "2*(1+2".toList := by cbv
  have hRight : substitute "3-8)".toList = "-5)".toList := by cbv
  refine ⟨by decide, by decide, ?_⟩
  rw [substitute_append_cons (by decide) (by decide), hLeft, hRight]

/-- A text without expression characters stays. -/
theorem substitute_eq_self {t : Text} (h : ∀ c ∈ t, isExprChar c = false) : substitute t = t := by
  suffices hRewrite : ∀ before, rewrite before t = t from hRewrite none
  induction t with
  | nil =>
    intro before
    rw [rewrite]
  | cons c t ih =>
    intro before
    rw [List.forall_mem_cons] at h
    rw [rewrite_cons_of_not_isExprChar h.1, ih h.2]

end Prose.Expr.Embedded
