import Prose.Proofs.Expr.Locality
import Prose.Proofs.Text.Decimal

/-!
# Candidates

How a run of expression characters is cut: behind the characters that cannot start an expression and
before those that cannot end one stands the candidate (`candidate_append`), and balancing takes the
surplus brackets off one of its ends (`balance_replicate`). Either the run stays as it is, or the
fragment in the middle passes every test and is replaced by its value, while all that stands around
it is kept (`rewriteRun_eq_self_or`).
-/

namespace Prose.Expr.Embedded

/-! ### Characters -/

theorem isExprChar_of_isDigit {c : Char} (h : c.isDigit) : isExprChar c := by
  simp [isExprChar, h]

theorem isOperatorChar_of_ends {c : Char} (h : ends c) : isOperatorChar c = false := by
  by_contra hOp
  simp only [isOperatorChar, List.mem_cons, List.not_mem_nil, or_false, decide_eq_false_iff_not,
    not_not] at hOp
  rcases hOp with rfl | rfl | rfl | rfl | rfl | rfl | rfl | rfl | rfl <;> cases h

/-- An operator cannot be all of a text that ends like an operand. -/
theorem two_le_length {t : Text} (hAny : t.any isOperatorChar) (hEnd : ∀ c ∈ t.getLast?, ends c) :
    2 ≤ t.length := by
  match t with
  | [] => cases hAny
  | [c] =>
    have hOp := isOperatorChar_of_ends (hEnd c rfl)
    simp [hOp] at hAny
  | _ :: _ :: _ => simp

theorem starts_replicate_append {t : Text} (hStart : ∃ c ∈ t.head?, starts c) (k : Nat) (r : Text) :
    ∃ c ∈ (List.replicate k '(' ++ t ++ r).head?, starts c := by
  cases k with
  | zero =>
    obtain ⟨c, hc, hStarts⟩ := hStart
    exact ⟨c, by simp [Option.mem_def.1 hc], hStarts⟩
  | succ k => exact ⟨'(', by simp [List.replicate_succ], by decide⟩

theorem ends_append_replicate {t : Text} (hNe : t ≠ []) (hEnd : ∀ c ∈ t.getLast?, ends c)
    (m : Nat) (l : Text) : ∀ c ∈ (l ++ t ++ List.replicate m ')').getLast?, ends c := by
  intro c hc
  rw [List.getLast?_append, List.getLast?_replicate, List.getLast?_append,
    List.getLast?_eq_some_getLast hNe, Option.some_or, ← List.getLast?_eq_some_getLast hNe,
    Option.mem_def, Option.or_eq_some_iff] at hc
  rcases hc with hc | ⟨-, hc⟩
  · split at hc
    · cases hc
    · obtain rfl : ')' = c := Option.some.inj hc
      decide
  · exact hEnd c hc

/-! ### The candidate of a run -/

/-- The candidate stands between characters that cannot start it and characters that cannot end
it. -/
theorem candidate_append {l m r : Text} (hl : ∀ c ∈ l, starts c = false)
    (hStart : ∃ c ∈ m.head?, starts c) (hEnd : ∀ c ∈ m.getLast?, ends c)
    (hr : ∀ c ∈ r, ends c = false) : candidate (l ++ m ++ r) = ⟨l, m, r⟩ := by
  have hLeft : ∀ c ∈ l, (!starts c) = true := fun c hc => by simp [hl c hc]
  have hHead : ∀ c ∈ (m ++ r).head?, (!starts c) = false := by
    obtain ⟨c, hc, hStarts⟩ := hStart
    intro d hd
    rw [List.head?_append, Option.mem_def.1 hc] at hd
    obtain rfl : c = d := Option.some.inj hd
    simp [hStarts]
  have hLast : ∀ c ∈ m.getLast?, (!ends c) = false := fun c hc => by simp [hEnd c hc]
  have hRight : ∀ c ∈ r, (!ends c) = true := fun c hc => by simp [hr c hc]
  rw [List.append_assoc]
  simp only [candidate, takeWhile_append_of_head? hLeft hHead,
    dropWhile_append_of_head? hLeft hHead, Text.dropEnd_append hLast hRight, List.drop_left]

theorem candidate_eq_self {run : Text} (hStart : ∃ c ∈ run.head?, starts c)
    (hEnd : ∀ c ∈ run.getLast?, ends c) : candidate run = ⟨[], run, []⟩ := by
  simpa using candidate_append (l := []) (r := []) (by simp) hStart hEnd (by simp)

theorem exists_candidate_eq (run : Text) : ∃ l m r, run = l ++ m ++ r ∧ candidate run = ⟨l, m, r⟩ ∧
    (∀ c ∈ l, starts c = false) ∧ ∀ c ∈ r, ends c = false := by
  obtain ⟨r, hr, hEnds⟩ := Text.exists_append_of_dropEnd (!ends ·) (run.dropWhile (!starts ·))
  refine ⟨run.takeWhile (!starts ·), Text.dropEnd (!ends ·) (run.dropWhile (!starts ·)), r, ?_, ?_,
    fun c hc => ?_, fun c hc => ?_⟩
  · rw [List.append_assoc, ← hr, List.takeWhile_append_dropWhile]
  · have hDrop := congrArg
      (List.drop (Text.dropEnd (!ends ·) (run.dropWhile (!starts ·))).length) hr
    rw [List.drop_left] at hDrop
    rw [candidate, Cut.mk.injEq]
    exact ⟨rfl, rfl, hDrop⟩
  · simpa using List.mem_takeWhile_imp hc
  · simpa using hEnds c hc

theorem starts_of_mem_left {run : Text} {c : Char} (h : c ∈ (candidate run).left) :
    starts c = false := by
  obtain ⟨l, m, r, -, hCandidate, hl, -⟩ := exists_candidate_eq run
  rw [hCandidate] at h
  exact hl c h

theorem ends_of_mem_right {run : Text} {c : Char} (h : c ∈ (candidate run).right) :
    ends c = false := by
  obtain ⟨l, m, r, -, hCandidate, -, hr⟩ := exists_candidate_eq run
  rw [hCandidate] at h
  exact hr c h

theorem ends_of_mem_getLast?_middle {run : Text} {c : Char}
    (h : c ∈ (candidate run).middle.getLast?) : ends c := by
  simpa using Text.of_mem_getLast?_dropEnd h

/-! ### Surplus brackets -/

theorem length_take_takeWhile_replicate {n k : Nat} (h : n ≤ k) (c : Char) (t : Text) :
    (((List.replicate k c ++ t).takeWhile (· = c)).take n).length = n := by
  rw [List.takeWhile_append_of_pos (by simp), List.length_take, List.length_append,
    List.length_replicate]
  omega

/-- Cutting by the lengths of the two ends. -/
theorem cut_append (l m r : Text) :
    (⟨(l ++ m ++ r).take l.length,
      ((l ++ m ++ r).drop l.length).take ((l ++ m ++ r).length - l.length - r.length),
      (l ++ m ++ r).drop ((l ++ m ++ r).length - r.length)⟩ : Cut) = ⟨l, m, r⟩ := by
  have hMiddle : (l ++ m ++ r).length - l.length - r.length = m.length := by
    simp only [List.length_append]
    omega
  have hRight : (l ++ m ++ r).length - r.length = (l ++ m).length := by
    simp only [List.length_append]
    omega
  rw [hMiddle, hRight, List.drop_left, List.append_assoc, List.take_left, List.drop_left,
    List.take_left]

/-- Balancing takes the surplus brackets off one end. -/
theorem balance_replicate {t : Text} (h : t.count '(' = t.count ')') (k m : Nat) :
    balance (List.replicate k '(' ++ t ++ List.replicate m ')') =
      ⟨List.replicate (k - m) '(',
        List.replicate (min k m) '(' ++ t ++ List.replicate (min k m) ')',
        List.replicate (m - k) ')'⟩ := by
  have hLeft := length_take_takeWhile_replicate (Nat.sub_le k m) '(' (t ++ List.replicate m ')')
  have hRight := length_take_takeWhile_replicate (Nat.sub_le m k) ')'
    (t.reverse ++ List.replicate k '(')
  have hReverse : (List.replicate k '(' ++ t ++ List.replicate m ')').reverse =
      List.replicate m ')' ++ (t.reverse ++ List.replicate k '(') := by
    simp
  have hSplit : List.replicate k '(' ++ t ++ List.replicate m ')' =
      List.replicate (k - m) '(' ++
        (List.replicate (min k m) '(' ++ t ++ List.replicate (min k m) ')') ++
        List.replicate (m - k) ')' := by
    have hOpening : List.replicate k '(' =
        List.replicate (k - m) '(' ++ List.replicate (min k m) '(' := by
      rw [List.replicate_append_replicate]
      exact congrArg (List.replicate · '(') (by omega)
    have hClosing : List.replicate m ')' =
        List.replicate (min k m) ')' ++ List.replicate (m - k) ')' := by
      rw [List.replicate_append_replicate]
      exact congrArg (List.replicate · ')') (by omega)
    rw [hOpening, hClosing]
    simp only [List.append_assoc]
  have hOpening : (List.replicate k '(' ++ t ++ List.replicate m ')').count '(' =
      t.count ')' + k := by
    simp [List.count_append, List.count_replicate, h, Nat.add_comm]
  have hClosing : (List.replicate k '(' ++ t ++ List.replicate m ')').count ')' =
      t.count ')' + m := by
    simp [List.count_append, List.count_replicate]
  rw [← List.append_assoc] at hLeft
  simp only [balance, hOpening, hClosing, Nat.add_sub_add_left, hLeft, hReverse, hRight]
  rw [hSplit]
  have hCut := cut_append (List.replicate (k - m) '(')
    (List.replicate (min k m) '(' ++ t ++ List.replicate (min k m) ')')
    (List.replicate (m - k) ')')
  rwa [List.length_replicate, List.length_replicate] at hCut

theorem exists_replicate_append (c : Char) (n : Nat) (t : Text) :
    ∃ r, t = List.replicate ((t.takeWhile (· = c)).take n).length c ++ r := by
  have hPrefix : t.take ((t.takeWhile (· = c)).take n).length <+: t.takeWhile (· = c) := by
    refine List.prefix_of_prefix_length_le (List.take_prefix _ t) (List.takeWhile_prefix _) ?_
    simp only [List.length_take]
    omega
  have hLength : ((t.takeWhile (· = c)).take n).length ≤ t.length :=
    ((List.take_sublist n _).trans (List.takeWhile_sublist _)).length_le
  refine ⟨t.drop ((t.takeWhile (· = c)).take n).length, ?_⟩
  have hTake : t.take ((t.takeWhile (· = c)).take n).length =
      List.replicate ((t.takeWhile (· = c)).take n).length c := by
    rw [List.eq_replicate_iff, List.length_take]
    refine ⟨Nat.min_eq_left hLength, fun d hd => ?_⟩
    simpa using List.mem_takeWhile_imp (hPrefix.mem hd)
  rw [← hTake, List.take_append_drop]

/-- Balancing takes brackets off at most one end. -/
theorem exists_balance_eq (t : Text) : ∃ k m f, (k = 0 ∨ m = 0) ∧
    t = List.replicate k '(' ++ f ++ List.replicate m ')' ∧
    balance t = ⟨List.replicate k '(', f, List.replicate m ')'⟩ := by
  rcases Nat.le_total (t.count ')') (t.count '(') with hLe | hLe
  · obtain ⟨f, hf⟩ := exists_replicate_append '(' (t.count '(' - t.count ')') t
    have hCut := cut_append (List.replicate
      ((t.takeWhile (· = '(')).take (t.count '(' - t.count ')')).length '(') f []
    rw [List.append_nil, ← hf, List.length_replicate, List.length_nil] at hCut
    refine ⟨_, 0, f, .inr rfl, by rw [← hf]; simp, ?_⟩
    simp only [balance, Nat.sub_eq_zero_of_le hLe, List.take_zero, List.length_nil]
    exact hCut
  · obtain ⟨f, hf⟩ := exists_replicate_append ')' (t.count ')' - t.count '(') t.reverse
    have hText := congrArg List.reverse hf
    rw [List.reverse_reverse, List.reverse_append, List.reverse_replicate] at hText
    have hCut := cut_append [] f.reverse (List.replicate
      ((t.reverse.takeWhile (· = ')')).take (t.count ')' - t.count '(')).length ')')
    rw [List.nil_append, ← hText, List.length_replicate, List.length_nil] at hCut
    refine ⟨0, _, f.reverse, .inl rfl, by rw [List.replicate_zero, List.nil_append, ← hText], ?_⟩
    simp only [balance, Nat.sub_eq_zero_of_le hLe, List.take_zero, List.length_nil]
    exact hCut

/-! ### Rewriting a run -/

/-- What is left of the candidate of a run when surplus brackets are taken off. -/
def fragment (run : Text) : Cut :=
  balance (candidate run).middle

/-- The run with `t` in the place of its fragment. -/
def around (run t : Text) : Text :=
  (candidate run).left ++ (fragment run).left ++ t ++ (fragment run).right ++ (candidate run).right

theorem around_fragment (run : Text) : around run (fragment run).middle = run := by
  obtain ⟨l, m, r, hRun, hCandidate, -, -⟩ := exists_candidate_eq run
  obtain ⟨j, k, f, -, hm, hBalance⟩ := exists_balance_eq m
  conv_rhs => rw [hRun, hm]
  simp only [around, fragment, hCandidate, hBalance, List.append_assoc]

/-- Only surplus brackets stand between the fragment and the ends of the candidate. -/
theorem exists_surplus (run : Text) : ∃ j k, (j = 0 ∨ k = 0) ∧
    (fragment run).left = List.replicate j '(' ∧ (fragment run).right = List.replicate k ')' := by
  obtain ⟨j, k, f, hSurplus, -, hBalance⟩ := exists_balance_eq (candidate run).middle
  exact ⟨j, k, hSurplus, by rw [fragment, hBalance], by rw [fragment, hBalance]⟩

/-- The fragment of a run passes every test and has a value. -/
structure Replaces (before : Option Char) (run : Text) (after : Option Char) (value : Int32) :
    Prop where
  noOperatorBefore : ((candidate run).left.getLast?.or before).any isOperatorChar = false
  noOperatorAfter : ((candidate run).right.head?.or after).any isOperatorChar = false
  hasOperator : (fragment run).middle.any isOperatorChar
  noWordBefore :
    ((fragment run).left.getLast?.or ((candidate run).left.getLast?.or before)).any isWordChar =
      false
  noWordAfter :
    ((fragment run).right.head?.or ((candidate run).right.head?.or after)).any isWordChar = false
  value : evalInfix (fragment run).middle = .ok value

/-- A candidate with an operator in its fragment is long enough. -/
theorem two_le_length_middle {run : Text} (h : (fragment run).middle.any isOperatorChar) :
    2 ≤ (candidate run).middle.length := by
  obtain ⟨j, k, f, -, hMiddle, hBalance⟩ := exists_balance_eq (candidate run).middle
  refine two_le_length ?_ fun c hc => ends_of_mem_getLast?_middle hc
  rw [fragment, hBalance] at h
  simp [hMiddle, h]

theorem Replaces.rewriteRun_eq {before : Option Char} {run : Text} {after : Option Char}
    {v : Int32} (h : Replaces before run after v) :
    rewriteRun before run after = around run (Decimal.ofInt v.toInt) := by
  obtain ⟨hOperatorBefore, hOperatorAfter, hOperator, hWordBefore, hWordAfter, hValue⟩ := h
  have hLong : decide ((candidate run).middle.length < 2) = false :=
    decide_eq_false (Nat.not_lt.2 (two_le_length_middle hOperator))
  rw [fragment] at hOperator hWordBefore hWordAfter hValue
  simp only [rewriteRun, hLong, hOperatorBefore, hOperatorAfter, hOperator, hWordBefore, hWordAfter,
    hValue]
  rfl

/-- A run stays as it is, or its fragment is replaced by its value. -/
theorem rewriteRun_eq_self_or (before : Option Char) (run : Text) (after : Option Char) :
    rewriteRun before run after = run ∨
      ∃ v, Replaces before run after v ∧
        rewriteRun before run after = around run (Decimal.ofInt v.toInt) := by
  simp only [rewriteRun]
  split
  · exact .inl rfl
  · rename_i hOperators
    split
    · exact .inl rfl
    · rename_i hFragment
      split
      · rename_i v hValue
        right
        simp only [Bool.or_eq_true, Bool.not_eq_true', not_or, Bool.not_eq_true,
          Bool.not_eq_false] at hOperators hFragment
        exact ⟨v, ⟨hOperators.1.2, hOperators.2, hFragment.1.1, hFragment.1.2, hFragment.2, hValue⟩,
          rfl⟩
      · exact .inl rfl

end Prose.Expr.Embedded
