import Prose.Expr.Machine
import Prose.Proofs.Expr.Tree
import Prose.Proofs.Text.Runs

/-!
# From spellings to values

Reading a spelling of a tree sends out the postorder of the tree, up to a few operators that still
wait at its end (`Spells.convert_append`). They all bind at least as tight as the spelling, so
whatever may follow a spelling sends them out first. The machine on the postorder of a tree leaves
the value of the tree on its stack (`Tree.foldlM_step_postorder`).
-/

namespace Prose.Expr

namespace Postfix

/-! ### Waiting operators -/

/-- No operator of the rate `rate` or of a higher one sends out what waits in `stack`. -/
def Holds (rate : Nat) (stack : List Operator) : Prop :=
  ∀ op : BinaryOp, rate ≤ op.rate → ∀ top ∈ stack.head?, yields op top = false

theorem yields_iff {op : BinaryOp} {top : Operator} :
    yields op top ↔ top ≠ .openBracket ∧ op.rate ≤ top.rate := by
  simp [yields]

theorem holds_nil (rate : Nat) : Holds rate [] := by
  intro op _ top hTop
  cases hTop

theorem holds_openBracket (rate : Nat) (stack : List Operator) :
    Holds rate (.openBracket :: stack) := by
  intro op _ top hTop
  obtain rfl : Operator.openBracket = top := by simpa using hTop
  simp [yields]

/-- Behind a binary operator waits for all that binds tighter. -/
theorem holds_binary {op : BinaryOp} {rate : Nat} (h : op.rate < rate) (stack : List Operator) :
    Holds rate (.binary op :: stack) := by
  intro op' hRate top hTop
  obtain rfl : Operator.binary op = top := by simpa using hTop
  refine Bool.eq_false_iff.2 fun hYields => ?_
  have hLe : op'.rate ≤ op.rate := (yields_iff.1 hYields).2
  omega

/-- No binary operator has the rate of a complement. -/
theorem holds_of_complement_le {rate : Nat} (h : Operator.complement.rate ≤ rate)
    (stack : List Operator) : Holds rate stack := by
  intro op hRate
  have hOp := op.rate_lt_complement
  omega

theorem Holds.mono {rate rate' : Nat} {stack : List Operator} (h : Holds rate stack)
    (hRate : rate ≤ rate') : Holds rate' stack :=
  fun op hOp => h op (hRate.trans hOp)

theorem popToOpen_append {popped : List Operator} (h : ∀ op ∈ popped, op ≠ .openBracket)
    (stack : List Operator) :
    popToOpen (popped ++ .openBracket :: stack) = some (popped, stack) := by
  induction popped with
  | nil => rfl
  | cons op popped ih =>
    rw [List.forall_mem_cons] at h
    simp [popToOpen, ih h.2, h.1]

theorem flush_eq_ok {stack : List Operator} (h : ∀ op ∈ stack, op ≠ .openBracket) :
    flush stack = .ok (stack.map .operator) := by
  induction stack with
  | nil => rfl
  | cons op stack ih =>
    rw [List.forall_mem_cons] at h
    simp [flush, ih h.2, h.1]

/-- The conversion of a text is that of its tokens, when it has any. -/
theorem ofInfix_eq {t : Text} {ts : List Token} (hText : Token.ofText t = .ok ts) (hNe : ts ≠ []) :
    ofInfix t = Postfix.mk <$> convert [] ts := by
  rw [ofInfix, hText]
  exact if_neg (by simpa using hNe)

end Postfix

open Postfix

/-- Reading a spelling sends out the postorder of its tree but for some operators that bind at least
as tight, which wait on top of what waited before. -/
theorem Spells.convert_append {e : Tree} {rate : Nat} {ts : List Token} (h : Spells e rate ts)
    {stack : List Operator} (hStack : Holds rate stack) :
    ∃ out waiting, e.postorder = out ++ waiting.map .operator ∧
      (∀ top ∈ waiting, top ≠ .openBracket ∧ rate ≤ top.rate) ∧
      ∀ rest, convert stack (ts ++ rest) = (out ++ ·) <$> convert (waiting ++ stack) rest := by
  induction h generalizing stack with
  | literal v => exact ⟨[.operand v], [], rfl, by simp, fun rest => by simp [convert]⟩
  | bracket _ ih =>
    obtain ⟨out, waiting, hPostorder, hWaiting, hConvert⟩ := ih (holds_openBracket _ stack)
    refine ⟨out ++ waiting.map .operator, [], by simpa using hPostorder, by simp, fun rest => ?_⟩
    have hPop := popToOpen_append (fun op h => (hWaiting op h).1) stack
    rw [List.cons_append, List.append_assoc, convert, hConvert, List.singleton_append, convert,
      hPop]
    simp
  | complement _ hRate ih =>
    obtain ⟨out, waiting, hPostorder, hWaiting, hConvert⟩ :=
      ih (holds_of_complement_le hRate (.complement :: stack))
    refine ⟨out, waiting ++ [.complement], by simp [Tree.postorder, hPostorder], ?_, fun rest => ?_⟩
    · intro top hTop
      rcases List.mem_append.1 hTop with hTop | hTop
      · exact ⟨(hWaiting top hTop).1, hRate.trans (hWaiting top hTop).2⟩
      · obtain rfl : top = .complement := by simpa using hTop
        exact ⟨by decide, le_rfl⟩
    · rw [List.cons_append, convert, hConvert]
      simp
  | @binary op l r p q ts us _ _ hp hq ihLeft ihRight =>
    obtain ⟨outL, waitingL, hLeft, hWaitingL, hConvertL⟩ := ihLeft (hStack.mono hp)
    obtain ⟨outR, waitingR, hRight, hWaitingR, hConvertR⟩ := ihRight (holds_binary hq stack)
    -- the operator sends out what waits for the left operand and nothing else
    have hYields : ∀ top ∈ waitingL, yields op top := fun top hTop =>
      yields_iff.2 ⟨(hWaitingL top hTop).1, hp.trans (hWaitingL top hTop).2⟩
    have hStays : ∀ top ∈ stack.head?, yields op top = false := hStack op le_rfl
    refine ⟨outL ++ waitingL.map .operator ++ outR, waitingR ++ [.binary op], ?_, ?_,
      fun rest => ?_⟩
    · simp [Tree.postorder, hLeft, hRight]
    · intro top hTop
      rcases List.mem_append.1 hTop with hTop | hTop
      · exact ⟨(hWaitingR top hTop).1, hq.le.trans (hWaitingR top hTop).2⟩
      · obtain rfl : top = .binary op := by simpa using hTop
        exact ⟨by simp, le_rfl⟩
    · rw [List.append_assoc, hConvertL, List.cons_append, convert,
        takeWhile_append_of_head? hYields hStays, dropWhile_append_of_head? hYields hStays,
        hConvertR]
      simp

/-- The postfix order of a spelling is the postorder of its tree. -/
theorem Spells.convert_eq {e : Tree} {rate : Nat} {ts : List Token} (h : Spells e rate ts) :
    convert [] ts = .ok e.postorder := by
  obtain ⟨out, waiting, hPostorder, hWaiting, hConvert⟩ := h.convert_append (holds_nil rate)
  have hFlush := flush_eq_ok fun op hOp => (hWaiting op hOp).1
  rw [← List.append_nil ts, hConvert [], List.append_nil, convert, hFlush, hPostorder]
  rfl

/-! ### The machine -/

theorem Stack.step_complement (v : Int32) (stack : Stack) :
    Stack.step (v :: stack) (.operator .complement) =
      .ok (Int32.ofInt (-v.toInt - 1) :: stack) := by
  rw [← complement_eq_ofInt]
  rfl

theorem Stack.step_binary (op : BinaryOp) (l r : Int32) (stack : Stack) :
    Stack.step (r :: l :: stack) (.operator (.binary op)) =
      .ok (Int32.ofInt (op.exact l.toInt r.toInt) :: stack) := by
  rw [← op.eval_eq_ofInt_exact]
  rfl

namespace Tree

/-- The postorder of a tree pushes its value. -/
theorem foldlM_step_postorder (e : Tree) (stack : Stack) (rest : List Token) :
    (e.postorder ++ rest).foldlM Stack.step stack = rest.foldlM Stack.step (e.value :: stack) := by
  induction e generalizing stack rest with
  | literal v => rfl
  | complement e ih =>
    rw [postorder, List.append_assoc, ih, List.singleton_append, List.foldlM_cons,
      Stack.step_complement]
    rfl
  | binary op l r ihLeft ihRight =>
    rw [postorder, List.append_assoc, List.append_assoc, ihLeft, ihRight, List.singleton_append,
      List.foldlM_cons, Stack.step_binary]
    rfl

theorem eval_postorder (e : Tree) : Postfix.eval ⟨e.postorder⟩ = .ok e.value := by
  have h := e.foldlM_step_postorder [] []
  rw [List.append_nil] at h
  rw [Postfix.eval, h]
  rfl

end Tree

end Prose.Expr
