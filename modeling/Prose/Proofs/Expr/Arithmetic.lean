import Mathlib
import Prose.Expr.Operator

/-!
# Word arithmetic

The operators on words are the operators on all integers, with the result reduced to 32 bits.
`BinaryOp.exact` gives the exact values: the bitwise operators act on the infinite two's complement
of their operands, and a shift is a product or a quotient by a power of two whose exponent is the
remainder of the right operand by 32. `eval_eq_ofInt_exact` says that reducing the exact value
gives the value on words.
-/

namespace Prose.Expr

/-- Bit `k` of a reduced integer is bit `k` of the integer. -/
theorem getElem_ofInt {w k : Nat} (i : Int) (hk : k < w) :
    (BitVec.ofInt w i)[k] = i.testBit k := by
  have hNat (n : Nat) : (BitVec.ofNat w n)[k] = n.testBit k := by
    simp [BitVec.getElem_eq_testBit_toNat, hk]
  cases i with
  | ofNat n => simp [Int.testBit, hNat]
  | negSucc n => simp [Int.testBit, hNat]

theorem getElem_toBitVec (a : Int32) {k : Nat} (hk : k < 32) :
    a.toBitVec[k] = a.toInt.testBit k := by
  rw [← getElem_ofInt a.toInt hk]
  exact congrArg (fun v : BitVec 32 => v[k]) BitVec.ofInt_toInt.symm

/-- A word whose bits are those of an integer is that integer reduced to 32 bits. -/
theorem eq_ofInt_of_testBit {x : Int32} {i : Int}
    (h : ∀ k, (hk : k < 32) → x.toBitVec[k] = i.testBit k) : x = Int32.ofInt i := by
  refine Int32.toBitVec_inj.1 (BitVec.eq_of_getElem_eq fun k hk => ?_)
  rw [h k hk]
  exact (getElem_ofInt i hk).symm

theorem ofInt_two_pow {w : Nat} (k : Nat) : BitVec.ofInt w (2 ^ k) = BitVec.twoPow w k := by
  rw [← BitVec.toNat_inj, BitVec.toNat_twoPow]
  norm_cast

namespace BinaryOp

/-- The exact value on integers. -/
def exact : BinaryOp → Int → Int → Int
  | .add, l, r => l + r
  | .sub, l, r => l - r
  | .mul, l, r => l * r
  | .or, l, r => l.lor r
  | .xor, l, r => l.xor r
  | .and, l, r => l.land r
  | .shiftLeft, l, r => l * 2 ^ (r % 32).toNat
  | .shiftRight, l, r => l / 2 ^ (r % 32).toNat

/-- The exponent of a shift is the non-negative remainder of its right operand. -/
theorem toNat_smod_32 (r : Int32) : (r.toBitVec.smod 32).toNat = (r.toInt % 32).toNat := by
  have h : (r.toBitVec.smod 32).toInt = r.toInt % 32 := by
    rw [BitVec.toInt_smod]
    exact Int.fmod_eq_emod_of_nonneg _ (by decide)
  rw [BitVec.toInt_eq_toNat_cond] at h
  split at h <;> omega

/-- The value on words is the exact value reduced to 32 bits. -/
theorem eval_eq_ofInt_exact (op : BinaryOp) (l r : Int32) :
    op.eval l r = Int32.ofInt (op.exact l.toInt r.toInt) := by
  cases op with
  | add => simp [eval, exact, Int32.ofInt_add]
  | sub => simp [eval, exact, Int32.ofInt_sub]
  | mul => simp [eval, exact, Int32.ofInt_mul]
  | or =>
    refine eq_ofInt_of_testBit fun k hk => ?_
    simp [eval, exact, Int.testBit_lor, getElem_toBitVec]
  | xor =>
    refine eq_ofInt_of_testBit fun k hk => ?_
    simp [eval, exact, Int.testBit_lxor, getElem_toBitVec]
  | and =>
    refine eq_ofInt_of_testBit fun k hk => ?_
    simp [eval, exact, Int.testBit_land, getElem_toBitVec]
  | shiftLeft =>
    refine Int32.toBitVec_inj.1 ?_
    simp only [eval, exact, Int32.toBitVec_shiftLeft, Int32.toBitVec_ofInt, BitVec.shiftLeft_eq',
      toNat_smod_32, BitVec.ofInt_mul, BitVec.shiftLeft_eq_mul_twoPow]
    rw [ofInt_two_pow]
    exact congrArg (· * _) BitVec.ofInt_toInt.symm
  | shiftRight =>
    refine Int32.toBitVec_inj.1 ?_
    rw [← BitVec.ofInt_toInt (x := Int32.toBitVec _)]
    simp only [eval, exact, Int32.toBitVec_shiftRight, Int32.toBitVec_ofInt,
      BitVec.toInt_sshiftRight', toNat_smod_32, Int.shiftRight_eq_div_pow]
    push_cast
    rfl

end BinaryOp

/-- The complement of a word is the complement of its integer. -/
theorem complement_eq_ofInt (a : Int32) : ~~~a = Int32.ofInt (-a.toInt - 1) := by
  simp [Int32.not_eq_neg_add]

end Prose.Expr
