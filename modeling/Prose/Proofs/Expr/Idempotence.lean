import Prose.Proofs.Expr.Occurrence
import Prose.Proofs.Expr.Written

/-!
# Substituting twice

A numeral in the place of a fragment makes no new expression with what is kept around it
(`not_replaces_around`). A numeral without a sign is found again as the fragment and holds no
operator. The sign of a negative one is an operator before the new candidate when no bracket is left
in front of it; behind such brackets the numeral is the new fragment, but a text that starts with a
binary operator has no value. So a rewritten text is settled (`settled_rewrite`), and a settled text
stays as it is (`Settled.rewrite_eq_self`).
-/

namespace Prose.Expr

/-- A binary operator finds no left operand in front of a number. -/
theorem evalInfix_hyphen_digits {ds : Text} (hNe : ds ≠ []) (hDigits : ∀ d ∈ ds, d.isDigit)
    (v : Int32) : evalInfix ('-' :: ds) ≠ .ok v := by
  have hHyphen : Token.ofText ('-' :: ds) =
      (.operator (.binary .sub) :: ·) <$> Token.ofText ds :=
    Token.ofText_symbol_append (.binary .sub) ds
  have hDigit := Token.ofText_run_append hNe hDigits (t := []) (by simp)
  rw [List.append_nil] at hDigit
  rw [evalInfix, Postfix.ofInfix, hHyphen, hDigit]
  intro hValue
  cases hLiteral : Token.literal ds with
  | error fault =>
    rw [hLiteral] at hValue
    cases hValue
  | ok w =>
    rw [hLiteral, Token.ofText] at hValue
    cases hValue

namespace Embedded

/-! ### Numerals in the place of fragments -/

theorem exists_starts_ofNat (n : Nat) : ∃ c ∈ (Decimal.ofNat n).head?, starts c := by
  obtain ⟨d, ds, hDigits⟩ := List.exists_cons_of_ne_nil (Decimal.ofNat_ne_nil n)
  have hd : d.isDigit := Decimal.isDigit_of_mem_ofNat (n := n) (by simp [hDigits])
  exact ⟨d, by rw [hDigits]; rfl, by simp [starts, hd]⟩

theorem ends_of_mem_ofNat {n : Nat} {c : Char} (h : c ∈ Decimal.ofNat n) : ends c := by
  simp [ends, Decimal.isDigit_of_mem_ofNat h]

theorem ends_ofNat_append_replicate (n : Nat) (l : Text) (k : Nat) :
    ∀ c ∈ (l ++ Decimal.ofNat n ++ List.replicate k ')').getLast?, ends c :=
  ends_append_replicate (Decimal.ofNat_ne_nil n)
    (fun _ hc => ends_of_mem_ofNat (List.mem_of_getLast? hc)) k l

theorem count_ofNat_of_not_isDigit {n : Nat} {c : Char} (h : c.isDigit = false) :
    (Decimal.ofNat n).count c = 0 := by
  refine List.count_eq_zero_of_not_mem fun hMem => ?_
  rw [Decimal.isDigit_of_mem_ofNat hMem] at h
  cases h

theorem isExprChar_of_mem_ofInt {i : Int} {c : Char} (h : c ∈ Decimal.ofInt i) : isExprChar c := by
  rcases Int.lt_or_le i 0 with hNeg | hNonneg
  · rw [Decimal.ofInt_of_neg hNeg, List.mem_cons] at h
    rcases h with rfl | h
    · decide
    · exact isExprChar_of_isDigit (Decimal.isDigit_of_mem_ofNat h)
  · rw [Decimal.ofInt_of_nonneg hNonneg] at h
    exact isExprChar_of_isDigit (Decimal.isDigit_of_mem_ofNat h)

theorem not_replaces_of_nonneg {l r : Text} {j k n : Nat} (hl : ∀ c ∈ l, starts c = false)
    (hr : ∀ c ∈ r, ends c = false) (before after : Option Char) (v : Int32) :
    ¬ Replaces before (l ++ (List.replicate j '(' ++ Decimal.ofNat n ++ List.replicate k ')') ++ r)
      after v := by
  intro h
  have hCandidate := candidate_append hl (starts_replicate_append (exists_starts_ofNat n) j _)
    (ends_ofNat_append_replicate n _ k) hr
  have hCount : (Decimal.ofNat n).count '(' = (Decimal.ofNat n).count ')' := by
    rw [count_ofNat_of_not_isDigit rfl, count_ofNat_of_not_isDigit rfl]
  have hOperator := h.hasOperator
  rw [fragment, hCandidate, balance_replicate hCount, List.any_eq_true] at hOperator
  obtain ⟨c, hc, hOperator⟩ := hOperator
  simp only [List.mem_append, List.mem_replicate] at hc
  rcases hc with (⟨-, rfl⟩ | hc) | ⟨-, rfl⟩
  · cases hOperator
  · rw [isOperatorChar_of_ends (ends_of_mem_ofNat hc)] at hOperator
    cases hOperator
  · cases hOperator

/-- Without a bracket in front of it, the hyphen stands before the candidate. -/
theorem not_replaces_of_hyphen {l r : Text} {k n : Nat} (hl : ∀ c ∈ l, starts c = false)
    (hr : ∀ c ∈ r, ends c = false) (before after : Option Char) (v : Int32) :
    ¬ Replaces before (l ++ ('-' :: Decimal.ofNat n ++ List.replicate k ')') ++ r) after v := by
  intro h
  have hLeft : ∀ c ∈ l ++ ['-'], starts c = false := by
    rw [List.forall_mem_append]
    exact ⟨hl, List.forall_mem_singleton.2 rfl⟩
  have hCandidate := candidate_append hLeft
    (starts_replicate_append (exists_starts_ofNat n) 0 _) (ends_ofNat_append_replicate n _ k) hr
  have hText : l ++ ('-' :: Decimal.ofNat n ++ List.replicate k ')') ++ r =
      l ++ ['-'] ++ (List.replicate 0 '(' ++ Decimal.ofNat n ++ List.replicate k ')') ++ r := by
    simp
  have hOperator := h.noOperatorBefore
  rw [hText, hCandidate, List.getLast?_concat] at hOperator
  cases hOperator

/-- Behind brackets the negative numeral is the fragment, and it has no value. -/
theorem not_replaces_of_brackets_hyphen {l r : Text} {j n : Nat} (hl : ∀ c ∈ l, starts c = false)
    (hr : ∀ c ∈ r, ends c = false) (before after : Option Char) (v : Int32) :
    ¬ Replaces before (l ++ (List.replicate (j + 1) '(' ++ '-' :: Decimal.ofNat n) ++ r) after
      v := by
  intro h
  have hStart : ∃ c ∈ (List.replicate (j + 1) '(' ++ '-' :: Decimal.ofNat n).head?, starts c :=
    ⟨'(', rfl, rfl⟩
  have hEnd : ∀ c ∈ (List.replicate (j + 1) '(' ++ '-' :: Decimal.ofNat n).getLast?, ends c := by
    simpa using ends_ofNat_append_replicate n (List.replicate (j + 1) '(' ++ ['-']) 0
  have hCandidate := candidate_append hl hStart hEnd hr
  have hCount : ('-' :: Decimal.ofNat n).count '(' = ('-' :: Decimal.ofNat n).count ')' := by
    rw [List.count_cons_of_ne (by decide), List.count_cons_of_ne (by decide),
      count_ofNat_of_not_isDigit rfl, count_ofNat_of_not_isDigit rfl]
  have hBalance := balance_replicate hCount (j + 1) 0
  have hValue := h.value
  rw [List.replicate_zero, List.append_nil] at hBalance
  rw [fragment, hCandidate, hBalance] at hValue
  refine evalInfix_hyphen_digits (Decimal.ofNat_ne_nil n)
    (fun d hd => Decimal.isDigit_of_mem_ofNat hd) v ?_
  simpa using hValue

/-- What is around a fragment makes no new expression with the numeral of a value. -/
theorem not_replaces_around (before : Option Char) (run : Text) (after : Option Char) (i : Int)
    (v : Int32) : ¬ Replaces before (around run (Decimal.ofInt i)) after v := by
  obtain ⟨j, k, hSurplus, hLeft, hRight⟩ := exists_surplus run
  have hl : ∀ c ∈ (candidate run).left, starts c = false := fun c hc => starts_of_mem_left hc
  have hr : ∀ c ∈ (candidate run).right, ends c = false := fun c hc => ends_of_mem_right hc
  have hAround (t : Text) : around run t = (candidate run).left ++
      (List.replicate j '(' ++ t ++ List.replicate k ')') ++ (candidate run).right := by
    simp only [around, hLeft, hRight, List.append_assoc]
  rw [hAround]
  rcases Int.lt_or_le i 0 with hNeg | hNonneg
  · rw [Decimal.ofInt_of_neg hNeg]
    rcases hSurplus with rfl | rfl
    · exact not_replaces_of_hyphen hl hr before after v
    · cases j with
      | zero => exact not_replaces_of_hyphen hl hr before after v
      | succ j =>
        rw [List.replicate_zero, List.append_nil]
        exact not_replaces_of_brackets_hyphen hl hr before after v
  · rw [Decimal.ofInt_of_nonneg hNonneg]
    exact not_replaces_of_nonneg hl hr before after v

/-! ### Settled texts -/

/-- In the text `t`, which follows the character `before`, no expression occurs. -/
def Settled (before : Option Char) (t : Text) : Prop :=
  ∀ d f v, ¬ Occurs before t d f v

/-- A settled text stays as it is. -/
theorem Settled.rewrite_eq_self {before : Option Char} {t : Text} (h : Settled before t) :
    rewrite before t = t := by
  fun_induction rewrite before t with
  | case1 before => rfl
  | case2 before c rest hc run tail ih =>
    have hText : c :: rest = run ++ tail := by
      rw [List.cons_append, List.takeWhile_append_dropWhile]
    have hRun : IsRun [] run tail := isRun_takeWhile hc rest
    rw [hText] at h
    have hTail : Settled run.getLast? tail := fun d f v hTail =>
      h (run ++ d) f v ((occurs_append_iff hRun run.getLast?).2 (.inr ⟨d, rfl, hTail⟩))
    rcases rewriteRun_eq_self_or before run tail.head? with hSelf | ⟨v, hReplaces, -⟩
    · rw [ih hTail, hSelf, hText]
    · have hOccurs := (occurs_append_iff hRun run.getLast?).2 (.inl ⟨hReplaces, rfl, rfl⟩)
      exact absurd hOccurs (h _ _ v)
  | case3 before c rest hc ih =>
    have hNot : isExprChar c = false := by simpa using hc
    have hRest : Settled (some c) rest :=
      fun d f v hRest => h (c :: d) f v ((occurs_cons_iff hNot).2 ⟨d, rfl, hRest⟩)
    rw [ih hRest]

/-! ### Rewriting twice -/

/-- A rewritten run holds no expression that is replaced. -/
theorem not_replaces_rewriteRun (before : Option Char) (run : Text) (after : Option Char)
    (v : Int32) : ¬ Replaces before (rewriteRun before run after) after v := by
  rcases rewriteRun_eq_self_or before run after with hSelf | ⟨w, -, hReplaced⟩
  · intro h
    rw [hSelf] at h
    refine not_replaces_around before run after v.toInt v ?_
    rwa [← h.rewriteRun_eq, hSelf]
  · rw [hReplaced]
    exact not_replaces_around before run after w.toInt v

/-- A rewritten run is a run again. -/
theorem IsRun.rewriteRun {run t : Text} (h : IsRun [] run t) (before after : Option Char) :
    IsRun [] (rewriteRun before run after) t := by
  rcases rewriteRun_eq_self_or before run after with hSelf | ⟨v, -, hReplaced⟩
  · rwa [hSelf]
  · have hChars := h.chars
    rw [← around_fragment run] at hChars
    rw [hReplaced]
    refine ⟨by simp [around, Decimal.ofInt_ne_nil], ?_, h.stopsBefore, h.stopsAfter⟩
    simp only [around, List.forall_mem_append] at hChars ⊢
    exact ⟨⟨⟨hChars.1.1.1, fun c hc => isExprChar_of_mem_ofInt hc⟩, hChars.1.2⟩, hChars.2⟩

/-- A rewritten text is settled. -/
theorem settled_rewrite (before : Option Char) (t : Text) : Settled before (rewrite before t) := by
  fun_induction rewrite before t with
  | case1 before => exact fun d f v => not_occurs_nil
  | case2 before c rest hc run tail ih =>
    have hRun : IsRun [] run tail := isRun_takeWhile hc rest
    have hHead := head?_rewrite hRun.stopsAfter run.getLast?
    have hRewritten : IsRun [] (rewriteRun before run tail.head?) (rewrite run.getLast? tail) := by
      have hSame := hRun.rewriteRun before tail.head?
      refine ⟨hSame.ne_nil, hSame.chars, hSame.stopsBefore, ?_⟩
      rw [hHead]
      exact hSame.stopsAfter
    intro d f v hOccurs
    rcases (occurs_append_iff hRewritten run.getLast?).1 hOccurs with
      ⟨hReplaces, -, -⟩ | ⟨d', -, hTail⟩
    · rw [hHead] at hReplaces
      exact not_replaces_rewriteRun before run tail.head? v hReplaces
    · exact ih d' f v hTail
  | case3 before c rest hc ih =>
    intro d f v hOccurs
    obtain ⟨d', -, hRest⟩ := (occurs_cons_iff (by simpa using hc)).1 hOccurs
    exact ih d' f v hRest

/-- Substitution leaves its results as they are, and no expression occurs in them. -/
theorem substitute_substitute_and_settled (t : Text) :
    substitute (substitute t) = substitute t ∧ Settled none (substitute t) := by
  have hSettled := settled_rewrite none t
  exact ⟨hSettled.rewrite_eq_self, hSettled⟩

end Embedded

end Prose.Expr
