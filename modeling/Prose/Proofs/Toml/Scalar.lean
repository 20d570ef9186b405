import Prose.Proofs.Text.Decimal
import Prose.Toml.Scalar

/-!
# Written numbers and truth values read back

A decimal numeral is neither a moment nor a float, for both need a character that is no digit, and
it is read as its number while that fits into 64 bits (`ofWord?_ofNat`).
-/

namespace Prose.Toml

section

variable {t : Text}

theorem not_mem_of_forall_isDigit {c : Char} (hc : c.isDigit = false) (h : ∀ d ∈ t, d.isDigit) :
    c ∉ t := by
  intro hMem
  rw [h c hMem] at hc
  cases hc

/-! ### Moments -/

theorem behind?_eq_none {c : Char} (hc : c.isDigit = false) (h : ∀ d ∈ t, d.isDigit) :
    Moment.behind? c t = none := by
  cases t with
  | nil => rfl
  | cons d t =>
    rw [Moment.behind?, if_neg]
    rintro rfl
    exact not_mem_of_forall_isDigit hc h List.mem_cons_self

/-- Behind the first number of a moment there is a mark that is no digit. -/
theorem behind?_of_number? {width low high n : Nat} {rest : Text} {c : Char}
    (hc : c.isDigit = false) (h : ∀ d ∈ t, d.isDigit)
    (hNumber : Moment.number? width low high t = some (n, rest)) :
    Moment.behind? c rest = none := by
  simp only [Moment.number?, Option.ite_none_right_eq_some, Option.some.injEq, Prod.mk.injEq]
    at hNumber
  obtain ⟨-, -, rfl⟩ := hNumber
  exact behind?_eq_none hc fun d hd => h d (List.mem_of_mem_drop hd)

theorem date?_eq_none (h : ∀ d ∈ t, d.isDigit) : Moment.date? t = none := by
  unfold Moment.date?
  cases hYear : Moment.number? 4 0 9999 t with
  | none => rfl
  | some p => simp [behind?_of_number? (c := '-') rfl h hYear]

theorem time?_eq_none (h : ∀ d ∈ t, d.isDigit) : Moment.time? t = none := by
  unfold Moment.time?
  cases hHour : Moment.number? 2 0 23 t with
  | none => rfl
  | some p => simp [behind?_of_number? (c := ':') rfl h hHour]

theorem isMoment_eq_false (h : ∀ d ∈ t, d.isDigit) : Moment.isMoment t = false := by
  rw [Moment.isMoment, date?_eq_none h, time?_eq_none h]
  rfl

/-! ### Floats and integers -/

theorem unsigned_eq_self (h : ∀ d ∈ t, d.isDigit) : Number.unsigned t = t := by
  unfold Number.unsigned
  split
  · cases h '+' List.mem_cons_self
  · cases h '-' List.mem_cons_self
  · rfl

theorem isFloat_eq_false (h : ∀ d ∈ t, d.isDigit) : Number.isFloat t = false := by
  have hInf : t ≠ "inf".toList := by
    rintro rfl
    exact not_mem_of_forall_isDigit (c := 'i') rfl h (by decide)
  have hNan : t ≠ "nan".toList := by
    rintro rfl
    exact not_mem_of_forall_isDigit (c := 'n') rfl h (by decide)
  have hDecimal : Number.decimal? t = none := by
    have hAll : t.dropWhile (fun c => c.isDigit || c = '_') = [] := by
      rw [List.dropWhile_eq_nil_iff]
      exact fun d hd => by simp [h d hd]
    simp only [Number.decimal?, hAll]
    cases Number.whole? _ <;> rfl
  rw [Number.isFloat, unsigned_eq_self h, hDecimal, decide_eq_false hInf, decide_eq_false hNan]
  rfl

theorem digits?_eq_some (hNe : t ≠ []) (h : ∀ d ∈ t, d.isDigit) :
    Number.digits? Char.isDigit t = some t := by
  induction t with
  | nil => exact absurd rfl hNe
  | cons c t ih =>
    rw [List.forall_mem_cons] at h
    cases t with
    | nil => rw [Number.digits?, if_pos h.1]
    | cons d t =>
      rw [Number.digits?, if_pos h.1, ih (List.cons_ne_nil d t) h.2]
      · rfl
      · rintro rfl
        cases h.2 '_' List.mem_cons_self

end

theorem whole?_ofNat (n : Nat) : Number.whole? (Decimal.ofNat n) = some (Decimal.ofNat n) := by
  rcases Decimal.ofNat_eq_or_head? n with hZero | hHead
  · rw [hZero]
    rfl
  · rw [Number.whole?]
    · exact digits?_eq_some (Decimal.ofNat_ne_nil n) fun d hd => Decimal.isDigit_of_mem_ofNat hd
    · intro h
      exact hHead '0' (by rw [h]; rfl) rfl
    · intro t h
      exact hHead '0' (by rw [h]; rfl) rfl

theorem not_mem_ofNat {n : Nat} {c : Char} (hc : c.isDigit = false) : c ∉ Decimal.ofNat n :=
  not_mem_of_forall_isDigit hc fun _ hd => Decimal.isDigit_of_mem_ofNat hd

theorem integer?_ofNat {n : Nat} (h : n < 2 ^ 63) :
    Number.integer? (Decimal.ofNat n) = some (n : Int) := by
  have hRange : Number.int64? (n : Int) = some (n : Int) := by
    rw [Number.int64?, if_pos]
    simp only [Nat.shiftLeft_eq, Bool.and_eq_true, decide_eq_true_eq]
    omega
  -- a numeral has neither the letter of another base nor a sign
  unfold Number.integer?
  split
  next hBase => exact absurd (by rw [hBase]; simp) (not_mem_ofNat (n := n) (c := 'x') rfl)
  next hBase => exact absurd (by rw [hBase]; simp) (not_mem_ofNat (n := n) (c := 'o') rfl)
  next hBase => exact absurd (by rw [hBase]; simp) (not_mem_ofNat (n := n) (c := 'b') rfl)
  next hSign => exact absurd (by rw [hSign]; simp) (not_mem_ofNat (n := n) (c := '+') rfl)
  next hSign => exact absurd (by rw [hSign]; simp) (not_mem_ofNat (n := n) (c := '-') rfl)
  next =>
    rw [whole?_ofNat, Option.bind_eq_bind, Option.bind_some, Decimal.value_ofNat, hRange]

/-- A numeral is read as its number. -/
theorem ofWord?_ofNat {n : Nat} (h : n < 2 ^ 63) :
    Value.ofWord? (Decimal.ofNat n) = some (.integer n) := by
  have hDigits : ∀ d ∈ Decimal.ofNat n, d.isDigit := fun d hd => Decimal.isDigit_of_mem_ofNat hd
  have hTrue : Decimal.ofNat n ≠ "true".toList := fun hEq =>
    not_mem_ofNat (n := n) (c := 't') rfl (by rw [hEq]; decide)
  have hFalse : Decimal.ofNat n ≠ "false".toList := fun hEq =>
    not_mem_ofNat (n := n) (c := 'f') rfl (by rw [hEq]; decide)
  rw [Value.ofWord?, if_neg hTrue, if_neg hFalse, isMoment_eq_false hDigits,
    isFloat_eq_false hDigits, integer?_ofNat h]
  rfl

end Prose.Toml
