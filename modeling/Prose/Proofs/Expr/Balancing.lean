import Prose.Proofs.Expr.Piece
import Prose.Proofs.Expr.Substitution

/-!
# Balancing round by round

Balancing a candidate is a loop: as long as the brackets of one kind are in the majority and one of
them stands at its end of the fragment, it goes outside (`shed`). What the loop will have made of a
cut in the end (`balanced`) stays the same in every round (`balanced_eq_of_shed`), and every round
shortens the fragment, so the loop stops with it (`exists_rounds_balanced`).

The loop compares numbers of brackets and knows nothing of partners. But a fragment with a value
has none without a partner (`partnerless_eq_nil_of_evalInfix`), and then what was put outside are
the brackets of the candidate that have none (`partnerless_replicate_append`).
-/

namespace Prose.Expr.Embedded

/-! ### The loop -/

/-- One round. A surplus bracket at its end of the middle goes outside, a closing one before an
opening one; otherwise there is no round. -/
def shed (c : Cut) : Option Cut :=
  if c.middle.count '(' < c.middle.count ')' ∧ c.middle.getLast? = some ')' then
    some ⟨c.left, c.middle.dropLast, ')' :: c.right⟩
  else if c.middle.count ')' < c.middle.count '(' ∧ c.middle.head? = some '(' then
    some ⟨c.left ++ ['('], c.middle.tail, c.right⟩
  else none

/-- `Rounds n c c'`: after `n` rounds the cut `c` has become `c'`. -/
inductive Rounds : Nat → Cut → Cut → Prop
  | zero (c : Cut) : Rounds 0 c c
  | succ {n : Nat} {c c' c'' : Cut} : shed c = some c' → Rounds n c' c'' → Rounds (n + 1) c c''

theorem shed_cases {c c' : Cut} (h : shed c = some c') :
    (∃ t, c.middle = t ++ [')'] ∧ t.count '(' ≤ t.count ')' ∧
        c' = ⟨c.left, t, ')' :: c.right⟩) ∨
      ∃ t, c.middle = '(' :: t ∧ t.count ')' ≤ t.count '(' ∧
        c' = ⟨c.left ++ ['('], t, c.right⟩ := by
  unfold shed at h
  split at h
  · rename_i hClosing
    obtain ⟨hCount, hLast⟩ := hClosing
    obtain ⟨t, ht⟩ := List.getLast?_eq_some_iff.1 hLast
    rw [ht] at h hCount
    simp only [List.count_append, List.count_singleton] at hCount
    refine .inl ⟨t, ht, by simpa [Nat.lt_succ_iff] using hCount, ?_⟩
    simpa using h.symm
  · split at h
    · rename_i hOpening
      obtain ⟨hCount, hHead⟩ := hOpening
      obtain ⟨t, ht⟩ := List.head?_eq_some_iff.1 hHead
      rw [ht] at h hCount
      refine .inr ⟨t, ht, by simpa [Nat.lt_succ_iff] using hCount, ?_⟩
      simpa using h.symm
    · cases h

theorem shed_eq_none_iff {c : Cut} :
    shed c = none ↔ (c.middle.count '(' < c.middle.count ')' → c.middle.getLast? ≠ some ')') ∧
      (c.middle.count ')' < c.middle.count '(' → c.middle.head? ≠ some '(') := by
  simp only [shed, ite_eq_right_iff, ite_eq_iff, reduceCtorEq, and_false, false_or, not_and,
    imp_false]

theorem length_middle_of_shed {c c' : Cut} (h : shed c = some c') :
    c'.middle.length + 1 = c.middle.length := by
  rcases shed_cases h with ⟨t, ht, -, rfl⟩ | ⟨t, ht, -, rfl⟩ <;> simp [ht]

theorem Rounds.length_middle {n : Nat} {c c' : Cut} (h : Rounds n c c') :
    n + c'.middle.length = c.middle.length := by
  induction h with
  | zero c => exact Nat.zero_add _
  | succ hShed _ ih =>
    have hStep := length_middle_of_shed hShed
    omega

/-! ### What the loop does to the balance -/

theorem balance_cons_openBracket {t : Text} (h : t.count ')' ≤ t.count '(') :
    balance ('(' :: t) = ⟨'(' :: (balance t).left, (balance t).middle, (balance t).right⟩ := by
  have hOpen : ('(' :: t).count '(' = t.count '(' + 1 := List.count_cons_self
  have hClose : ('(' :: t).count ')' = t.count ')' := List.count_cons_of_ne (by decide)
  have hSurplus : t.count '(' + 1 - t.count ')' = t.count '(' - t.count ')' + 1 := by omega
  have hNone : t.count ')' - (t.count '(' + 1) = 0 := by omega
  simp only [balance, hOpen, hClose, hSurplus, hNone, Nat.sub_eq_zero_of_le h]
  simp

theorem balance_append_closeBracket {t : Text} (h : t.count '(' ≤ t.count ')') :
    balance (t ++ [')']) = ⟨(balance t).left, (balance t).middle, (balance t).right ++ [')']⟩ := by
  have hOpen : (t ++ [')']).count '(' = t.count '(' := by simp
  have hClose : (t ++ [')']).count ')' = t.count ')' + 1 := by simp
  have hSurplus : t.count ')' + 1 - t.count '(' = t.count ')' - t.count '(' + 1 := by omega
  have hNone : t.count '(' - (t.count ')' + 1) = 0 := by omega
  have hDrop (n : Nat) : (t ++ [')']).drop (t.length - n) = t.drop (t.length - n) ++ [')'] :=
    List.drop_append_of_le_length (Nat.sub_le _ _)
  simp only [balance, hOpen, hClose, hSurplus, hNone, Nat.sub_eq_zero_of_le h]
  simp [hDrop]

/-- Nothing is taken off an end where no bracket stands. -/
theorem take_takeWhile_eq_nil {c : Char} {t : Text} {n : Nat} (h : 0 < n → t.head? ≠ some c) :
    (t.takeWhile (· = c)).take n = [] := by
  cases n with
  | zero => exact List.take_zero
  | succ n =>
    have hHead := h (Nat.succ_pos n)
    cases t with
    | nil => rfl
    | cons d t =>
      have hd : d ≠ c := by simpa using hHead
      rw [List.takeWhile_cons_of_neg (by simpa using hd), List.take_nil]

theorem balance_eq_self {t : Text} (hClosing : t.count '(' < t.count ')' → t.getLast? ≠ some ')')
    (hOpening : t.count ')' < t.count '(' → t.head? ≠ some '(') : balance t = ⟨[], t, []⟩ := by
  have hLeft : (t.takeWhile (· = '(')).take (t.count '(' - t.count ')') = [] :=
    take_takeWhile_eq_nil fun hSurplus => hOpening (Nat.lt_of_sub_pos hSurplus)
  have hRight : (t.reverse.takeWhile (· = ')')).take (t.count ')' - t.count '(') = [] := by
    refine take_takeWhile_eq_nil fun hSurplus => ?_
    rw [List.head?_reverse]
    exact hClosing (Nat.lt_of_sub_pos hSurplus)
  simp only [balance, hLeft, hRight]
  simp

/-- What the loop makes of a cut: the brackets that balancing takes off the middle go outside. -/
def balanced (c : Cut) : Cut :=
  { left := c.left ++ (balance c.middle).left
    middle := (balance c.middle).middle
    right := (balance c.middle).right ++ c.right }

/-- A round does not change what the loop is going to make of the cut. -/
theorem balanced_eq_of_shed {c c' : Cut} (h : shed c = some c') : balanced c = balanced c' := by
  rcases shed_cases h with ⟨t, ht, hCount, rfl⟩ | ⟨t, ht, hCount, rfl⟩
  · simp only [balanced, ht, balance_append_closeBracket hCount, List.append_assoc,
      List.singleton_append]
  · simp only [balanced, ht, balance_cons_openBracket hCount, List.append_assoc,
      List.singleton_append]

theorem balanced_eq_self {c : Cut} (h : shed c = none) : balanced c = c := by
  obtain ⟨hClosing, hOpening⟩ := shed_eq_none_iff.1 h
  simp only [balanced, balance_eq_self hClosing hOpening, List.append_nil, List.nil_append]

/-- The loop stops with the balanced cut. -/
theorem exists_rounds_balanced (c : Cut) :
    ∃ n, Rounds n c (balanced c) ∧ shed (balanced c) = none := by
  induction hLength : c.middle.length using Nat.strongRecOn generalizing c with
  | ind n ih =>
    cases hShed : shed c with
    | none =>
      rw [balanced_eq_self hShed]
      exact ⟨0, .zero c, hShed⟩
    | some c' =>
      have hShorter := length_middle_of_shed hShed
      obtain ⟨m, hRounds, hStops⟩ := ih c'.middle.length (by omega) c' rfl
      rw [balanced_eq_of_shed hShed]
      exact ⟨m + 1, .succ hShed hRounds, hStops⟩

/-! ### Brackets without a partner -/

/-- The positions of the brackets of a text that have no partner, where the text starts at `pos` and
the brackets at the positions in `stack` are open, the innermost one first. A closing bracket is the
partner of the innermost open one. -/
def partnerless (stack : List Nat) (pos : Nat) : Text → List Nat
  | [] => stack.reverse
  | c :: t =>
    if c = '(' then partnerless (pos :: stack) (pos + 1) t
    else if c = ')' then
      if stack.isEmpty then pos :: partnerless [] (pos + 1) t
      else partnerless stack.tail (pos + 1) t
    else partnerless stack (pos + 1) t

theorem partnerless_openBracket (stack : List Nat) (pos : Nat) (t : Text) :
    partnerless stack pos ('(' :: t) = partnerless (pos :: stack) (pos + 1) t := by
  rw [partnerless, if_pos rfl]

theorem partnerless_closeBracket (p : Nat) (stack : List Nat) (pos : Nat) (t : Text) :
    partnerless (p :: stack) pos (')' :: t) = partnerless stack (pos + 1) t := by
  rw [partnerless, if_neg (by decide), if_pos rfl]
  rfl

theorem partnerless_closeBracket_nil (pos : Nat) (t : Text) :
    partnerless [] pos (')' :: t) = pos :: partnerless [] (pos + 1) t := by
  rw [partnerless, if_neg (by decide), if_pos rfl]
  rfl

theorem ne_bracket_of_pos {p : Char → Bool} (hp : ['(', ')'].any p = false) {c : Char} (hc : p c) :
    c ≠ '(' ∧ c ≠ ')' := by
  constructor <;> rintro rfl <;> simp [hc] at hp

/-- Characters that are no brackets are passed by. -/
theorem partnerless_append_of_forall_ne {t : Text} (ht : ∀ c ∈ t, c ≠ '(' ∧ c ≠ ')')
    (stack : List Nat) (pos : Nat) (r : Text) :
    partnerless stack pos (t ++ r) = partnerless stack (pos + t.length) r := by
  induction t generalizing pos with
  | nil => rfl
  | cons c t ih =>
    rw [List.forall_mem_cons] at ht
    rw [List.cons_append, partnerless, if_neg ht.1.1, if_neg ht.1.2, ih ht.2, List.length_cons,
      Nat.add_right_comm, Nat.add_assoc]

/-- A part that closes the brackets `above` and its own leaves those below them as they are. -/
theorem partnerless_append {above : List Nat} {pos : Nat} {f : Text}
    (h : partnerless above pos f = []) (below : List Nat) (r : Text) :
    partnerless (above ++ below) pos (f ++ r) = partnerless below (pos + f.length) r := by
  induction f generalizing above pos with
  | nil =>
    -- what is open at the end has no partner, so nothing is
    obtain rfl : above = [] := List.reverse_eq_nil_iff.1 h
    rfl
  | cons c f ih =>
    have hNext : pos + (c :: f).length = pos + 1 + f.length := by
      rw [List.length_cons]
      omega
    rw [hNext, List.cons_append]
    by_cases hOpen : c = '('
    · subst hOpen
      rw [partnerless_openBracket] at h ⊢
      exact ih h
    by_cases hClose : c = ')'
    · subst hClose
      cases above with
      | nil =>
        rw [partnerless_closeBracket_nil] at h
        cases h
      | cons a above =>
        rw [partnerless_closeBracket] at h
        rw [List.cons_append, partnerless_closeBracket]
        exact ih h
    · rw [partnerless, if_neg hOpen, if_neg hClose] at h ⊢
      exact ih h

theorem partnerless_replicate_openBracket (k : Nat) (stack : List Nat) (pos : Nat) (t : Text) :
    partnerless stack pos (List.replicate k '(' ++ t) =
      partnerless ((List.range' pos k).reverse ++ stack) (pos + k) t := by
  induction k generalizing stack pos with
  | zero => rfl
  | succ k ih =>
    rw [List.replicate_succ, List.cons_append, partnerless_openBracket, ih, List.range'_succ,
      List.reverse_cons, List.append_assoc, Nat.add_right_comm, Nat.add_assoc]
    rfl

theorem partnerless_replicate_closeBracket (m pos : Nat) :
    partnerless [] pos (List.replicate m ')') = List.range' pos m := by
  induction m generalizing pos with
  | zero => rfl
  | succ m ih => rw [List.replicate_succ, partnerless_closeBracket_nil, ih, List.range'_succ]

/-- Brackets at one end of a text without any of its own that lack a partner all lack one. -/
theorem partnerless_replicate_append {f : Text} (hf : ∀ pos, partnerless [] pos f = []) {k m : Nat}
    (h : k = 0 ∨ m = 0) :
    partnerless [] 0 (List.replicate k '(' ++ f ++ List.replicate m ')') =
      List.range k ++ List.range' (k + f.length) m := by
  rw [List.append_assoc, partnerless_replicate_openBracket, List.append_nil]
  have hMiddle := partnerless_append (hf (0 + k)) (List.range' 0 k).reverse (List.replicate m ')')
  rw [List.nil_append] at hMiddle
  rw [hMiddle, List.range_eq_range']
  rcases h with rfl | rfl
  · rw [Nat.zero_add]
    exact partnerless_replicate_closeBracket m _
  · exact List.reverse_reverse _ |>.trans (List.append_nil _).symm

/-! ### Fragments with a value -/

theorem partnerless_eq_nil_of_closes {ts : List Token} {t : Text} (h : Written ts t)
    {stack : List Nat} (hCloses : closes stack.length ts) (pos : Nat) :
    partnerless stack pos t = [] := by
  induction h generalizing stack pos with
  | nil =>
    obtain rfl : stack = [] := by simpa using hCloses
    rfl
  | @blank c ts t hBlank _ ih =>
    have hNe : ∀ d ∈ [c], d ≠ '(' ∧ d ≠ ')' :=
      List.forall_mem_singleton.2 (ne_bracket_of_pos (by decide) hBlank)
    exact (partnerless_append_of_forall_ne hNe stack pos t).trans (ih hCloses (pos + 1))
  | operand digits _ hDigits _ _ ih =>
    rw [partnerless_append_of_forall_ne fun d hd => ne_bracket_of_pos (by decide) (hDigits d hd)]
    exact ih hCloses _
  | @operator op ts t _ ih =>
    have hOther (hBracket : op.isBracket = false) :
        partnerless stack pos (op.symbol ++ t) =
          partnerless stack (pos + op.symbol.length) t := by
      refine partnerless_append_of_forall_ne (fun c hc => ?_) stack pos t
      exact ne_bracket_of_pos (by decide) (Operator.isOperatorChar_of_mem_symbol hBracket hc)
    cases op with
    | openBracket =>
      rw [Operator.symbol, List.singleton_append, partnerless_openBracket]
      exact ih (by simpa using hCloses) (pos + 1)
    | closeBracket =>
      cases stack with
      | nil => simp at hCloses
      | cons p stack =>
        rw [Operator.symbol, List.singleton_append, partnerless_closeBracket]
        exact ih (by simpa using hCloses) (pos + 1)
    | complement =>
      rw [hOther rfl]
      exact ih hCloses _
    | binary op =>
      rw [hOther rfl]
      exact ih hCloses _

/-- A text with a value has no bracket without a partner. -/
theorem partnerless_eq_nil_of_evalInfix {t : Text} {v : Int32} (h : evalInfix t = .ok v)
    (pos : Nat) : partnerless [] pos t = [] := by
  obtain ⟨ts, out, hText, hConvert⟩ := exists_convert_of_evalInfix h
  have hCloses : closes ([] : List Nat).length ts := Postfix.closes_of_convert hConvert
  exact partnerless_eq_nil_of_closes (written_of_ofText hText) hCloses pos

/-- In any text and from any candidate `t` in it the loop of balancing stops, after one round for
each bracket it puts outside, and leaves a part of the candidate: brackets of one kind are gone from
their end. When what is left has a value, no bracket in it is without a partner, and those that are
gone are the brackets of the candidate that have none. -/
theorem rounds_balance_and_partnerless (before t after : Text) :
    let b := balance t
    (∃ n, Rounds n ⟨before, t, after⟩ ⟨before ++ b.left, b.middle, b.right ++ after⟩) ∧
    shed ⟨before ++ b.left, b.middle, b.right ++ after⟩ = none ∧
    (∀ n c, Rounds n ⟨before, t, after⟩ c → n + c.middle.length = t.length) ∧
    t = b.left ++ b.middle ++ b.right ∧
    (∀ c ∈ b.left, c = '(') ∧ (∀ c ∈ b.right, c = ')') ∧ (b.left = [] ∨ b.right = []) ∧
    ∀ v, evalInfix b.middle = .ok v →
      partnerless [] 0 b.middle = [] ∧
      partnerless [] 0 t = List.range b.left.length ++
        List.range' (b.left.length + b.middle.length) b.right.length := by
  intro b
  obtain ⟨n, hRounds, hStops⟩ := exists_rounds_balanced ⟨before, t, after⟩
  refine ⟨⟨n, hRounds⟩, hStops, fun n c h => h.length_middle, ?_⟩
  obtain ⟨k, m, f, hEnd, hText, hBalance⟩ := exists_balance_eq t
  have hb : b = ⟨List.replicate k '(', f, List.replicate m ')'⟩ := hBalance
  rw [hb]
  refine ⟨hText, fun c => List.eq_of_mem_replicate, fun c => List.eq_of_mem_replicate,
    hEnd.imp (by rintro rfl; rfl) (by rintro rfl; rfl), fun v hValue => ?_⟩
  have hf := partnerless_eq_nil_of_evalInfix hValue
  refine ⟨hf 0, ?_⟩
  rw [List.length_replicate, List.length_replicate, hText]
  exact partnerless_replicate_append hf hEnd

/-- The first of two opening brackets has no partner, and it is the one that is put outside. -/
theorem partnerless_of_surplus_bracket :
    let t : Text := "((1+2)*3".toList
    balance t = ⟨['('], "(1+2)*3".toList, []⟩ ∧ evalInfix "(1+2)*3".toList = .ok 9 ∧
      partnerless [] 0 "(1+2)*3".toList = [] ∧ partnerless [] 0 t = [0] := by
  intro t
  have hBalance : balance t = ⟨['('], "(1+2)*3".toList, []⟩ := by decide
  have hValue : evalInfix "(1+2)*3".toList = .ok 9 := by cbv
  have hAll := rounds_balance_and_partnerless [] t []
  rw [hBalance] at hAll
  obtain ⟨-, -, -, -, -, -, -, hPartnerless⟩ := hAll
  exact ⟨hBalance, hValue, hPartnerless 9 hValue⟩

-- without a value the bracket that is put outside may have a partner
example : (balance "(1)+(2".toList).left = ['('] ∧ partnerless [] 0 "(1)+(2".toList = [4] := by
  decide

end Prose.Expr.Embedded
