import Prose.Proofs.Expr.Conversion
import Prose.Proofs.Result

/-!
# What the machine accepts

Every value on the stack belongs to a tree, and the tokens read so far are the postorders of these
trees one after the other (`Stack.exists_trees_of_foldlM`). So the machine has a value exactly for
the postorder of a tree, and it is the value of that tree.

What is wrong with any other list without brackets is found by counting. Before every token the
stack holds as many values as `valueCount` says: the operands less the binary operators so far.
Either an operator finds fewer values than it takes, or `valueCount` of them are left in the end
(`Stack.foldlM_step_outcome`).
-/

namespace Prose.Expr

/-- How many values an operator takes off the stack. -/
def Operator.arity : Operator → Nat
  | .complement => 1
  | _ => 2

/-- Does the token find fewer values than it takes when there are `n`? -/
def Token.Lacks (n : Int) : Token → Prop
  | .operand _ => False
  | .operator op => n < op.arity

/-- The operands less the binary operators: how many values the tokens `ts` make. -/
def valueCount (ts : List Token) : Int :=
  ts.countP Token.isOperand - ts.countP Token.isBinary

/-- With `n` values on the stack some token of `ts` finds fewer than it takes. -/
def Starves (n : Int) (ts : List Token) : Prop :=
  ∃ done t rest, ts = done ++ t :: rest ∧ t.Lacks (n + valueCount done)

@[simp] theorem valueCount_nil : valueCount [] = 0 := rfl

theorem valueCount_cons (t : Token) (ts : List Token) :
    valueCount (t :: ts) = valueCount [t] + valueCount ts := by
  simp only [valueCount, List.countP_cons, List.countP_nil]
  omega

@[simp] theorem valueCount_operand (v : Int32) : valueCount [.operand v] = 1 := rfl

theorem valueCount_operator {op : Operator} (h : op.isBracket = false) :
    valueCount [.operator op] = 1 - op.arity := by
  cases op with
  | binary op => rfl
  | complement => rfl
  | openBracket => cases h
  | closeBracket => cases h

theorem not_starves_nil (n : Int) : ¬ Starves n [] := by
  rintro ⟨done, t, rest, h, -⟩
  simp at h

/-- The first token is without its values, or the count goes on behind it. -/
theorem starves_cons {n : Int} {t : Token} {ts : List Token} :
    Starves n (t :: ts) ↔ t.Lacks n ∨ Starves (n + valueCount [t]) ts := by
  constructor
  · rintro ⟨done, t', rest, hEq, hLacks⟩
    cases done with
    | nil =>
      obtain ⟨rfl, rfl⟩ := List.cons.inj hEq
      rw [valueCount_nil, add_zero] at hLacks
      exact .inl hLacks
    | cons t'' done =>
      obtain ⟨rfl, rfl⟩ := List.cons.inj hEq
      rw [valueCount_cons, ← add_assoc] at hLacks
      exact .inr ⟨done, t', rest, rfl, hLacks⟩
  · rintro (hLacks | ⟨done, t', rest, rfl, hLacks⟩)
    · exact ⟨[], t, ts, rfl, by rwa [valueCount_nil, add_zero]⟩
    · exact ⟨t :: done, t', rest, rfl, by rwa [valueCount_cons, ← add_assoc]⟩

namespace Stack

/-! ### One token -/

/-- All that a token can do to a stack without a fault. -/
theorem step_cases {stack stack' : Stack} {t : Token} (h : step stack t = .ok stack') :
    (∃ v, t = .operand v ∧ stack' = v :: stack) ∨
      (∃ v below, t = .operator .complement ∧ stack = v :: below ∧
        stack' = Int32.ofInt (-v.toInt - 1) :: below) ∨
      ∃ op r l below, t = .operator (.binary op) ∧ stack = r :: l :: below ∧
        stack' = Int32.ofInt (op.exact l.toInt r.toInt) :: below := by
  match t, stack with
  | .operand v, stack => exact .inl ⟨v, rfl, (Except.ok.inj h).symm⟩
  | .operator .complement, v :: below =>
    rw [step_complement] at h
    exact .inr (.inl ⟨v, below, rfl, rfl, (Except.ok.inj h).symm⟩)
  | .operator (.binary op), r :: l :: below =>
    rw [step_binary] at h
    exact .inr (.inr ⟨op, r, l, below, rfl, rfl, (Except.ok.inj h).symm⟩)
  | .operator .complement, [] => cases h
  | .operator (.binary op), [] => cases h
  | .operator (.binary op), [r] => cases h
  | .operator .openBracket, [] => cases h
  | .operator .openBracket, [r] => cases h
  | .operator .openBracket, r :: l :: below => cases h
  | .operator .closeBracket, [] => cases h
  | .operator .closeBracket, [r] => cases h
  | .operator .closeBracket, r :: l :: below => cases h

/-- A token other than a bracket asks for its values and for nothing else. -/
theorem step_outcome {t : Token} (ht : t.isBracket = false) (stack : Stack) :
    (t.Lacks stack.length ∧ step stack t = .error (.malformed .stackUnderflow)) ∨
      (¬ t.Lacks stack.length ∧ ∃ stack', step stack t = .ok stack' ∧
        (stack'.length : Int) = stack.length + valueCount [t]) := by
  match t, stack with
  | .operand v, stack => exact .inr ⟨id, v :: stack, rfl, by simp⟩
  | .operator .complement, [] => exact .inl ⟨one_pos, rfl⟩
  | .operator .complement, v :: below =>
    refine .inr ⟨?_, _, step_complement v below, ?_⟩
    · simp only [Token.Lacks, Operator.arity, List.length_cons]
      omega
    · simp [valueCount_operator ht, Operator.arity]
  | .operator (.binary op), [] => exact .inl ⟨two_pos, rfl⟩
  | .operator (.binary op), [r] => exact .inl ⟨one_lt_two, rfl⟩
  | .operator (.binary op), r :: l :: below =>
    refine .inr ⟨?_, _, step_binary op l r below, ?_⟩
    · simp only [Token.Lacks, Operator.arity, List.length_cons]
      omega
    · simp only [valueCount_operator ht, Operator.arity, List.length_cons]
      omega
  | .operator .openBracket, _ => cases ht
  | .operator .closeBracket, _ => cases ht

/-- A token ends the postorder of the tree that is the latest behind it. -/
theorem exists_trees_of_step {t : Token} {es : List Tree} {stack : Stack}
    (h : step (es.map Tree.value) t = .ok stack) :
    ∃ es' : List Tree, stack = es'.map Tree.value ∧
      es'.reverse.flatMap Tree.postorder = es.reverse.flatMap Tree.postorder ++ [t] := by
  obtain ⟨v, rfl, rfl⟩ | ⟨v, below, rfl, hStack, rfl⟩ | ⟨op, r, l, below, rfl, hStack, rfl⟩ :=
    step_cases h
  · exact ⟨.literal v :: es, rfl, by simp [Tree.postorder]⟩
  · obtain ⟨e, es, rfl, rfl, rfl⟩ := List.map_eq_cons_iff.1 hStack
    exact ⟨.complement e :: es, rfl, by simp [Tree.postorder]⟩
  · obtain ⟨right, es', rfl, rfl, hStack'⟩ := List.map_eq_cons_iff.1 hStack
    obtain ⟨left, es, rfl, rfl, rfl⟩ := List.map_eq_cons_iff.1 hStack'
    exact ⟨.binary op left right :: es, rfl, by simp [Tree.postorder]⟩

/-- One value is a result, and any other number of values a fault. -/
theorem result_outcome (stack : Stack) :
    (stack = [] ∧ stack.result = .error (.malformed .stackUnderflow)) ∨
      (∃ v, stack = [v] ∧ stack.result = .ok v) ∨
      ∃ k : Nat, stack.length = k + 2 ∧
        stack.result = .error (.malformed (.valuesLeft (k + 1))) := by
  match stack with
  | [] => exact .inl ⟨rfl, rfl⟩
  | [v] => exact .inr (.inl ⟨v, rfl, rfl⟩)
  | _ :: _ :: below => exact .inr (.inr ⟨below.length, rfl, rfl⟩)

/-! ### All tokens -/

/-- The values on the stack are those of trees, the latest first, and the tokens read are the
postorders of these trees in order. -/
theorem exists_trees_of_foldlM {ts : List Token} {es : List Tree} {stack : Stack}
    (h : ts.foldlM step (es.map Tree.value) = .ok stack) :
    ∃ es' : List Tree, stack = es'.map Tree.value ∧
      es'.reverse.flatMap Tree.postorder = es.reverse.flatMap Tree.postorder ++ ts := by
  induction ts generalizing es with
  | nil => exact ⟨es, (Except.ok.inj h).symm, by simp⟩
  | cons t ts ih =>
    rw [List.foldlM_cons] at h
    obtain ⟨middle, hStep, hRest⟩ := bind_eq_ok_iff.1 h
    obtain ⟨es₁, rfl, hListing⟩ := exists_trees_of_step hStep
    obtain ⟨es₂, hStack, hListing'⟩ := ih hRest
    refine ⟨es₂, hStack, ?_⟩
    rw [hListing', hListing, List.append_assoc, List.singleton_append]

/-- From an empty stack the tokens read are exactly these postorders. -/
theorem exists_trees_of_foldlM_nil {ts : List Token} {stack : Stack}
    (h : ts.foldlM step [] = .ok stack) :
    ∃ es : List Tree, stack = es.map Tree.value ∧ es.reverse.flatMap Tree.postorder = ts :=
  @exists_trees_of_foldlM ts [] stack h

theorem foldlM_step_cons {stack stack' : Stack} {t : Token} (h : step stack t = .ok stack')
    (ts : List Token) : (t :: ts).foldlM step stack = ts.foldlM step stack' := by
  rw [List.foldlM_cons, h]
  rfl

/-- Without brackets the machine stops at the first token that finds too few values, and when there
is none it leaves as many as have been counted. -/
theorem foldlM_step_outcome {ts : List Token} (hTs : ∀ t ∈ ts, t.isBracket = false)
    (stack : Stack) :
    (Starves stack.length ts ∧ ts.foldlM step stack = .error (.malformed .stackUnderflow)) ∨
      (¬ Starves stack.length ts ∧ ∃ stack', ts.foldlM step stack = .ok stack' ∧
        (stack'.length : Int) = stack.length + valueCount ts) := by
  induction ts generalizing stack with
  | nil => exact .inr ⟨not_starves_nil _, stack, rfl, by simp⟩
  | cons t ts ih =>
    rw [List.forall_mem_cons] at hTs
    rw [starves_cons]
    rcases step_outcome hTs.1 stack with ⟨hLacks, hFault⟩ | ⟨hLacks, stack', hStep, hLength⟩
    · refine .inl ⟨.inl hLacks, ?_⟩
      rw [List.foldlM_cons, hFault]
      rfl
    · rw [foldlM_step_cons hStep, valueCount_cons t ts, ← add_assoc, ← hLength, or_iff_right hLacks]
      exact ih hTs.2 stack'

end Stack

namespace Postfix

/-- The machine has a value exactly for the postorder of a tree, and it is the value of the tree. -/
theorem eval_eq_ok_iff {ts : List Token} {v : Int32} :
    eval ⟨ts⟩ = .ok v ↔ ∃ e : Tree, ts = e.postorder ∧ v = e.value := by
  constructor
  · intro h
    obtain ⟨stack, hFold, hResult⟩ := bind_eq_ok_iff.1 h
    obtain ⟨es, rfl, hListing⟩ := Stack.exists_trees_of_foldlM_nil hFold
    obtain ⟨-, hFault⟩ | ⟨v', hOne, hValue⟩ | ⟨k, -, hFault⟩ :=
      Stack.result_outcome (es.map Tree.value)
    · rw [hFault] at hResult
      cases hResult
    · obtain ⟨e, rfl, rfl⟩ := List.map_eq_singleton_iff.1 hOne
      rw [hValue] at hResult
      exact ⟨e, by simpa using hListing.symm, (Except.ok.inj hResult).symm⟩
    · rw [hFault] at hResult
      cases hResult
  · rintro ⟨e, rfl, rfl⟩
    exact e.eval_postorder

/-- A token list without brackets that is no postorder of a tree has too few values somewhere, or
too many in the end. -/
theorem eval_eq_error {ts : List Token} (hTs : ∀ t ∈ ts, t.isBracket = false)
    (hNo : ∀ e : Tree, ts ≠ e.postorder) :
    ((ts = [] ∨ Starves 0 ts) ∧ eval ⟨ts⟩ = .error (.malformed .stackUnderflow)) ∨
      (¬ (ts = [] ∨ Starves 0 ts) ∧ ∃ k : Nat, (k : Int) = valueCount ts - 1 ∧
        eval ⟨ts⟩ = .error (.malformed (.valuesLeft k))) := by
  rcases Stack.foldlM_step_outcome hTs [] with ⟨hStarves, hFault⟩ | ⟨hEnough, stack, hFold, hLength⟩
  · exact .inl ⟨.inr hStarves, by rw [eval, hFault]; rfl⟩
  · have hEval : eval ⟨ts⟩ = stack.result := by
      rw [eval, hFold]
      rfl
    obtain ⟨es, rfl, hListing⟩ := Stack.exists_trees_of_foldlM_nil hFold
    obtain ⟨hNil, hFault⟩ | ⟨v, hOne, -⟩ | ⟨k, hMany, hFault⟩ :=
      Stack.result_outcome (es.map Tree.value)
    · obtain rfl := List.map_eq_nil_iff.1 hNil
      exact .inl ⟨.inl (by simpa using hListing.symm), hEval.trans hFault⟩
    · obtain ⟨e, rfl, -⟩ := List.map_eq_singleton_iff.1 hOne
      exact absurd (by simpa using hListing.symm) (hNo e)
    · have hCount : valueCount ts = k + 2 := by
        rw [hMany] at hLength
        simpa using hLength.symm
      refine .inr ⟨?_, k + 1, by omega, hEval.trans hFault⟩
      rintro (rfl | hStarves)
      · rw [valueCount_nil] at hCount
        omega
      · exact hEnough hStarves

/-- Token lists have a value exactly when they are the postorder of a tree, which is then the value
of the tree. Without brackets all others have too few values somewhere or too many in the end, by
the count of operands and operators, and with brackets they are faulty in any case. -/
theorem eval_eq_ok_iff_postorder_and_faults (ts : List Token) :
    (∀ v, eval ⟨ts⟩ = .ok v ↔ ∃ e : Tree, ts = e.postorder ∧ v = e.value) ∧
      ((∀ t ∈ ts, t.isBracket = false) → (∀ e : Tree, ts ≠ e.postorder) →
        (eval ⟨ts⟩ = .error (.malformed .stackUnderflow) ↔ ts = [] ∨ Starves 0 ts) ∧
          (¬ (ts = [] ∨ Starves 0 ts) → ∃ k : Nat, (k : Int) = valueCount ts - 1 ∧
            eval ⟨ts⟩ = .error (.malformed (.valuesLeft k)))) ∧
      ((∃ t ∈ ts, t.isBracket) → ∃ fault, eval ⟨ts⟩ = .error fault) ∧
      Defect.stackUnderflow.message = "stack underflow".toList ∧
      ∀ k, (Defect.valuesLeft k).message =
        Decimal.ofNat k ++ " values left on the stack".toList := by
  refine ⟨fun v => eval_eq_ok_iff, fun hTs hNo => ?_, fun ⟨t, hMem, hBracket⟩ => ?_, rfl,
    fun k => rfl⟩
  · rcases eval_eq_error hTs hNo with ⟨hFew, hFault⟩ | ⟨hEnough, k, hCount, hFault⟩
    · exact ⟨iff_of_true hFault hFew, fun hEnough => absurd hFew hEnough⟩
    · refine ⟨iff_of_false (fun h => ?_) hEnough, fun _ => ⟨k, hCount, hFault⟩⟩
      rw [hFault] at h
      cases h
  · cases hEval : eval ⟨ts⟩ with
    | error fault => exact ⟨fault, rfl⟩
    | ok v =>
      obtain ⟨e, rfl, -⟩ := eval_eq_ok_iff.1 hEval
      rw [e.isBracket_eq_false hMem] at hBracket
      cases hBracket

/-- Four operands, of which a difference takes two, and a complement. -/
def surplus : List Token :=
  [.operand 8, .operand 3, .operand 5, .operator (.binary .sub), .operand 7, .operator .complement]

/-- The operator that is missing twice at the end leaves two values too many. -/
theorem eval_of_surplus_values :
    (∀ t ∈ surplus, t.isBracket = false) ∧ (∀ e : Tree, surplus ≠ e.postorder) ∧
      ¬ (surplus = [] ∨ Starves 0 surplus) ∧
      eval ⟨surplus⟩ = .error (.malformed (.valuesLeft 2)) := by
  have hEval : eval ⟨surplus⟩ = .error (.malformed (.valuesLeft 2)) := rfl
  obtain ⟨hOk, hFaults, -⟩ := eval_eq_ok_iff_postorder_and_faults surplus
  have hBrackets : ∀ t ∈ surplus, t.isBracket = false := by decide
  have hNo : ∀ e : Tree, surplus ≠ e.postorder := fun e he =>
    nomatch hEval.symm.trans ((hOk e.value).2 ⟨e, he, rfl⟩)
  obtain ⟨hUnderflow, hLeft⟩ := hFaults hBrackets hNo
  have hEnough : ¬ (surplus = [] ∨ Starves 0 surplus) := fun h =>
    nomatch hEval.symm.trans (hUnderflow.2 h)
  obtain ⟨k, hCount, hFault⟩ := hLeft hEnough
  have hThree : valueCount surplus = 3 := rfl
  obtain rfl : k = 2 := by omega
  exact ⟨hBrackets, hNo, hEnough, hFault⟩

end Postfix

end Prose.Expr
