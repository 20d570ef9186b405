import Prose.Proofs.Expr.Conversion

/-!
# Wrapping once

The machine reduces to 32 bits behind every operator. `Tree.exact` never reduces: it is the value of
a tree on unbounded integers. The two agree up to one reduction at the end
(`Tree.eval_postorder_eq_bmod_exact`), because the low bits of a result depend on the low bits of
the operands only (`BinaryOp.eval_ofInt`). The amount of a shift is among these, as 32 divides the
size of a word. The shift to the right is the exception: it brings down bits that the reduction has
cut off.
-/

namespace Prose.Expr

/-- The remainder by 32 can be read off the reduced integer. -/
theorem toInt_ofInt_emod_32 (i : Int) : (Int32.ofInt i).toInt % 32 = i % 32 := by
  rw [Int32.toInt_ofInt]
  calc i.bmod Int32.size % 32
    _ = i.bmod Int32.size % (Int32.size : Int) % 32 :=
        (Int.emod_emod_of_dvd _ (by decide)).symm
    _ = i % (Int32.size : Int) % 32 := by rw [Int.bmod_emod]
    _ = i % 32 := Int.emod_emod_of_dvd i (by decide)

/-- Reducing the operands first changes no result but that of the shift to the right. -/
theorem BinaryOp.eval_ofInt {op : BinaryOp} (hOp : op ≠ .shiftRight) (l r : Int) :
    op.eval (Int32.ofInt l) (Int32.ofInt r) = Int32.ofInt (op.exact l r) := by
  cases op with
  | add => exact (Int32.ofInt_add l r).symm
  | sub => exact (Int32.ofInt_sub l r).symm
  | mul => exact (Int32.ofInt_mul l r).symm
  | or =>
    refine eq_ofInt_of_testBit fun k hk => ?_
    simp [eval, exact, Int.testBit_lor, getElem_ofInt]
  | xor =>
    refine eq_ofInt_of_testBit fun k hk => ?_
    simp [eval, exact, Int.testBit_lxor, getElem_ofInt]
  | and =>
    refine eq_ofInt_of_testBit fun k hk => ?_
    simp [eval, exact, Int.testBit_land, getElem_ofInt]
  | shiftLeft =>
    rw [eval_eq_ofInt_exact, exact, exact, toInt_ofInt_emod_32, Int32.ofInt_mul, Int32.ofInt_mul,
      Int32.ofInt_toInt]
  | shiftRight => exact absurd rfl hOp

theorem complement_ofInt (i : Int) : ~~~(Int32.ofInt i) = Int32.ofInt (-i - 1) := by
  simp [Int32.not_eq_neg_add, Int32.ofInt_sub, Int32.ofInt_neg]

namespace Tree

/-- The value on integers without bounds. -/
def exact : Tree → Int
  | .literal v => v.toInt
  | .complement e => -e.exact - 1
  | .binary op l r => op.exact l.exact r.exact

/-- Does the operator stand nowhere in the tree? -/
def avoids (op : BinaryOp) : Tree → Bool
  | .literal _ => true
  | .complement e => e.avoids op
  | .binary op' l r => op' ≠ op && l.avoids op && r.avoids op

/-- Reducing at every operator is reducing once. -/
theorem value_eq_ofInt_exact {e : Tree} (h : e.avoids .shiftRight) :
    e.value = Int32.ofInt e.exact := by
  induction e with
  | literal v => exact (Int32.ofInt_toInt v).symm
  | complement e ih => rw [value, exact, ← complement_eq_ofInt, ih h, complement_ofInt]
  | binary op l r ihLeft ihRight =>
    simp only [avoids, Bool.and_eq_true, decide_eq_true_eq] at h
    obtain ⟨⟨hOp, hLeft⟩, hRight⟩ := h
    rw [value, exact, ← op.eval_eq_ofInt_exact, ihLeft hLeft, ihRight hRight, op.eval_ofInt hOp]

/-- Without shifts to the right, the postorder of a tree evaluates to the exact value of the tree
modulo `2 ^ 32`, taken between `-2 ^ 31` and `2 ^ 31 - 1`. -/
theorem eval_postorder_eq_bmod_exact {e : Tree} (h : e.avoids .shiftRight) :
    ∃ v : Int32, Postfix.eval ⟨e.postorder⟩ = .ok v ∧ v.toInt = e.exact.bmod (2 ^ 32) := by
  refine ⟨e.value, e.eval_postorder, ?_⟩
  rw [value_eq_ofInt_exact h]
  exact Int32.toInt_ofInt

/-- A product that does not fit, shifted by a difference that does not fit either: the exponent is
the remainder 25 of `-2147483655`. -/
theorem eval_postorder_of_wrapped_shift :
    let e : Tree := .binary .xor (.complement (.literal 0)) (.binary .shiftLeft
      (.binary .mul (.literal 2147483647) (.literal 3))
      (.binary .sub (.literal (-2147483648)) (.literal 7)))
    e.avoids .shiftRight ∧ e.exact = -1 - 6442450941 * 2 ^ 25 ∧
      ∃ v : Int32, Postfix.eval ⟨e.postorder⟩ = .ok v ∧ v.toInt = 100663295 := by
  intro e
  have hAvoids : e.avoids .shiftRight := rfl
  have hExact : e.exact = -1 - 6442450941 * 2 ^ 25 := by decide +kernel
  obtain ⟨v, hEval, hValue⟩ := eval_postorder_eq_bmod_exact hAvoids
  refine ⟨hAvoids, hExact, v, hEval, ?_⟩
  rw [hValue, hExact]
  decide

/-- A sum that does not fit loses the bit that a shift to the right would bring down. -/
example :
    let e : Tree := .binary .shiftRight (.binary .add (.literal 2147483647) (.literal 1))
      (.literal 1)
    e.value.toInt = -1073741824 ∧ e.exact.bmod (2 ^ 32) = 1073741824 := by
  decide +kernel

end Tree

end Prose.Expr
