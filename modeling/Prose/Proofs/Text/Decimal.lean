import Mathlib
import Prose.Text.Decimal

/-!
# Written integers

A numeral is a run of digits that is not empty, behind a minus sign when the integer is negative.
-/

namespace Prose.Decimal

theorem toNat_of_isDigit {c : Char} (h : c.isDigit) : 48 ≤ c.toNat ∧ c.toNat ≤ 57 := by
  simp only [Char.isDigit, Bool.and_eq_true, decide_eq_true_eq, ge_iff_le,
    UInt32.le_iff_toNat_le] at h
  exact h

theorem ofNat_ne_nil (n : Nat) : ofNat n ≠ [] :=
  Nat.toDigits_ne_nil

theorem isDigit_of_mem_ofNat {n : Nat} {c : Char} (h : c ∈ ofNat n) : c.isDigit :=
  Nat.isDigit_of_mem_toDigits (by decide) (by decide) h

/-- A written number spells itself. -/
theorem value_ofNat (n : Nat) : value (ofNat n) = n :=
  Nat.ofDigitChars_ten_toDigits

/-- Only zero is written with a zero in front. -/
theorem ofNat_eq_or_head? (n : Nat) : ofNat n = ['0'] ∨ ∀ c ∈ (ofNat n).head?, c ≠ '0' := by
  induction n using Nat.strongRecOn with
  | ind n ih =>
    by_cases hSmall : n < 10
    · have hAll : ∀ m < 10, m.digitChar = '0' → m = 0 := by decide
      rw [ofNat, Nat.toDigits_of_lt_base (by omega)]
      by_cases hZero : n = 0
      · exact .inl (by rw [hZero]; rfl)
      · refine .inr ?_
        simpa using fun h => hZero (hAll n (by omega) h)
    · have hSplit : ofNat n = ofNat (n / 10) ++ [(n % 10).digitChar] :=
        Nat.toDigits_of_base_le (by decide) (by omega)
      have hHead : (ofNat n).head? = (ofNat (n / 10)).head? := by
        rw [hSplit, List.head?_append_of_ne_nil _ (ofNat_ne_nil _)]
      rcases ih (n / 10) (by omega) with hZero | hNonzero
      · have hValue := value_ofNat (n / 10)
        rw [hZero] at hValue
        have : 0 = n / 10 := hValue
        omega
      · exact .inr (hHead ▸ hNonzero)

theorem le_foldl (n : Nat) (ds : Text) : n ≤ ds.foldl (fun n d => 10 * n + digit d) n := by
  induction ds generalizing n with
  | nil => exact le_rfl
  | cons d ds ih => exact (by omega : n ≤ 10 * n + digit d).trans (ih _)

/-- Digits are read when their number, behind the value `n`, is within the limit. -/
theorem digits?_eq_ok {limit n : Nat} {ds : Text} (hDigits : ∀ d ∈ ds, d.isDigit)
    (hLimit : ds.foldl (fun n d => 10 * n + digit d) n ≤ limit) :
    digits? limit n ds = .ok (ds.foldl (fun n d => 10 * n + digit d) n) := by
  induction ds generalizing n with
  | nil => rfl
  | cons d ds ih =>
    rw [List.forall_mem_cons] at hDigits
    rw [List.foldl_cons] at hLimit ⊢
    have hStep : 10 * n + digit d ≤ limit := (le_foldl _ ds).trans hLimit
    rw [digits?, hDigits.1, if_neg (by simp), if_neg (by omega), ih hDigits.2 hLimit]

theorem nat?_eq_ok {limit : Nat} {t ds : Text} (hSign : t = ds ∨ t = '+' :: ds) (hNe : ds ≠ [])
    (hDigits : ∀ d ∈ ds, d.isDigit) (hLimit : value ds ≤ limit) :
    nat? limit t = .ok (value ds) := by
  have hRead : digits? limit 0 ds = .ok (value ds) := digits?_eq_ok hDigits hLimit
  cases ds with
  | nil => exact absurd rfl hNe
  | cons d ds =>
    rcases hSign with rfl | rfl
    · -- a digit is no plus sign
      have hPlus : d ≠ '+' := by
        rintro rfl
        exact absurd (hDigits '+' List.mem_cons_self) (by decide)
      rw [nat?]
      · exact hRead
      all_goals simp [hPlus]
    · rw [nat?]
      · exact hRead
      simp

/-- Only digits within the limit are read. -/
theorem of_digits?_eq_ok {limit n m : Nat} {ds : Text} (hn : n ≤ limit)
    (h : digits? limit n ds = .ok m) :
    (∀ d ∈ ds, d.isDigit) ∧ ds.foldl (fun n d => 10 * n + digit d) n = m ∧ m ≤ limit := by
  induction ds generalizing n with
  | nil =>
    obtain rfl : n = m := Except.ok.inj h
    exact ⟨List.forall_mem_nil _, rfl, hn⟩
  | cons d ds ih =>
    rw [digits?] at h
    split at h
    next => cases h
    next hDigit =>
      split at h
      next => cases h
      next hLimit =>
        obtain ⟨hDigits, hValue, hRange⟩ := ih (by omega) h
        exact ⟨List.forall_mem_cons.2 ⟨by simpa using hDigit, hDigits⟩, hValue, hRange⟩

theorem exists_digits_of_nat?_eq_ok {limit n : Nat} {t : Text} (h : nat? limit t = .ok n) :
    ∃ ds, (t = ds ∨ t = '+' :: ds) ∧ ds ≠ [] ∧ (∀ d ∈ ds, d.isDigit) ∧ value ds = n ∧
      n ≤ limit := by
  unfold nat? at h
  split at h
  next => cases h
  next => cases h
  next ds hNe => exact ⟨ds, .inr rfl, by simpa using hNe, of_digits?_eq_ok (Nat.zero_le _) h⟩
  next hNe _ _ => exact ⟨t, .inl rfl, hNe, of_digits?_eq_ok (Nat.zero_le _) h⟩

theorem ofInt_of_nonneg {i : Int} (h : 0 ≤ i) : ofInt i = ofNat i.natAbs := by
  cases i with
  | ofNat n => rfl
  | negSucc n => omega

theorem ofInt_of_neg {i : Int} (h : i < 0) : ofInt i = '-' :: ofNat i.natAbs := by
  cases i with
  | ofNat n =>
    rw [Int.ofNat_eq_natCast] at h
    omega
  | negSucc n => rfl

theorem ofInt_ne_nil (i : Int) : ofInt i ≠ [] := by
  rcases Int.lt_or_le i 0 with hNeg | hNonneg
  · rw [ofInt_of_neg hNeg]
    exact List.cons_ne_nil _ _
  · rw [ofInt_of_nonneg hNonneg]
    exact ofNat_ne_nil _

/-! ### Signed integers -/

theorem digits?_ofNat {limit n : Nat} (h : n ≤ limit) : digits? limit 0 (ofNat n) = .ok n := by
  have hRead : digits? limit 0 (ofNat n) = .ok (value (ofNat n)) :=
    digits?_eq_ok (fun _ => isDigit_of_mem_ofNat) ((value_ofNat n).trans_le h)
  rwa [value_ofNat] at hRead

theorem nat?_ofNat {limit n : Nat} (h : n ≤ limit) : nat? limit (ofNat n) = .ok n := by
  have hRead : nat? limit (ofNat n) = .ok (value (ofNat n)) :=
    nat?_eq_ok (.inl rfl) (ofNat_ne_nil n) (fun _ => isDigit_of_mem_ofNat)
      ((value_ofNat n).trans_le h)
  rwa [value_ofNat] at hRead

theorem int32?_of_head? {t : Text} (h : t.head? ≠ some '-') :
    int32? t = (nat? ((1 <<< 31) - 1) t).toOption.map Int32.ofNat := by
  unfold int32?
  split
  · simp at h
  · rfl

theorem head?_ofNat (n : Nat) : (ofNat n).head? ≠ some '-' := by
  intro h
  have hDigit := isDigit_of_mem_ofNat (List.mem_of_mem_head? h)
  cases hDigit

theorem int32OfNat_natAbs {v : Int32} (h : 0 ≤ v.toInt) : Int32.ofNat v.toInt.natAbs = v := by
  rw [← Int32.ofInt_eq_ofNat, Int.natAbs_of_nonneg h, Int32.ofInt_toInt]

/-- Every 32-bit integer is read back from its numeral. -/
theorem int32?_ofInt (v : Int32) : int32? (ofInt v.toInt) = some v := by
  have hLow := Int32.le_toInt v
  have hHigh := Int32.toInt_lt v
  rcases Int.lt_or_le v.toInt 0 with hNeg | hNonneg
  · obtain ⟨c, ds, hDigits⟩ := List.exists_cons_of_ne_nil (ofNat_ne_nil v.toInt.natAbs)
    have hMinus : -(v.toInt.natAbs : Int) = v.toInt := by omega
    rw [ofInt_of_neg hNeg, hDigits, int32?, ← hDigits, digits?_ofNat (by omega)]
    exact congrArg some ((congrArg Int32.ofInt hMinus).trans (Int32.ofInt_toInt v))
  · rw [ofInt_of_nonneg hNonneg, int32?_of_head? (head?_ofNat _), nat?_ofNat (by omega)]
    exact congrArg some (int32OfNat_natAbs hNonneg)

end Prose.Decimal
