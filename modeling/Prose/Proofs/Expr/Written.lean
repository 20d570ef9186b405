import Prose.Proofs.Expr.Grammar
import Prose.Proofs.Text.Runs

/-!
# Written tokens

`Written ts t` says that the text `t` is the tokens `ts` one after the other: operands as runs of
digits, leading zeros included, operators as their symbols, and blanks before, between and behind
them as one likes. Cutting such a text gives the tokens back (`Written.ofText_eq`) as long as no two
operands stand side by side, which `alternates` excludes.
-/

namespace Prose.Expr

/-- The text is the written forms of the tokens, with any blanks around them. -/
inductive Written : List Token → Text → Prop
  | nil : Written [] []
  | blank {c : Char} {ts : List Token} {t : Text} : isBlank c → Written ts t → Written ts (c :: t)
  | operand (digits : Text) {ts : List Token} {t : Text} : digits ≠ [] →
      (∀ d ∈ digits, d.isDigit) → Decimal.value digits < 2 ^ 31 → Written ts t →
      Written (.operand (Int32.ofNat (Decimal.value digits)) :: ts) (digits ++ t)
  | operator (op : Operator) {ts : List Token} {t : Text} : Written ts t →
      Written (.operator op :: ts) (op.symbol ++ t)

/-! ### The first characters of tokens -/

theorem isDigit_eq_false_of_isBlank {c : Char} (h : isBlank c) : c.isDigit = false :=
  eq_false_of_isBlank (by decide) h

namespace Operator

theorem ofSymbol_symbol (op : Operator) : ofSymbol op.symbol = .ok op := by
  rw [ofSymbol, ofSymbol?_symbol]

/-- A symbol is one character, which neither starts a shift nor is read as anything else, or the
doubled character of a shift. -/
theorem symbol_eq_single_or_double (op : Operator) :
    (∃ c, op.symbol = [c] ∧ isBlank c = false ∧ c.isDigit = false ∧ c ≠ '<' ∧ c ≠ '>') ∨
      ∃ c, op.symbol = [c, c] ∧ (c = '<' ∨ c = '>') := by
  cases op with
  | binary op => cases op <;> simp [symbol, BinaryOp.symbol] <;> decide
  | complement => simp [symbol]; decide
  | openBracket => simp [symbol]; decide
  | closeBracket => simp [symbol]; decide

/-- The first character of a symbol is no digit. -/
theorem head?_symbol_append (op : Operator) (t : Text) :
    ∀ c ∈ (op.symbol ++ t).head?, c.isDigit = false := by
  rcases op.symbol_eq_single_or_double with ⟨c, hSymbol, -, hDigit, -⟩ | ⟨c, hSymbol, hShift⟩
  · simpa [hSymbol] using hDigit
  · rcases hShift with rfl | rfl <;> simp [hSymbol]

end Operator

/-- Where no operand can start the text does not go on with a digit. -/
theorem Written.head?_isDigit {ts : List Token} {t : Text} (h : Written ts t)
    (hAlternates : alternates false ts) : ∀ c ∈ t.head?, c.isDigit = false := by
  cases h with
  | nil => simp
  | blank hBlank _ => simpa using isDigit_eq_false_of_isBlank hBlank
  | operand => simp at hAlternates
  | operator op _ => exact op.head?_symbol_append _

/-! ### Cutting a text -/

namespace Token

theorem ofText_blank {c : Char} (h : isBlank c) (t : Text) : ofText (c :: t) = ofText t := by
  rw [ofText.eq_def]
  simp [h]

theorem ofText_digit {c : Char} (h : c.isDigit) (t : Text) :
    ofText (c :: t) = (do
      let value ← literal (c :: t.takeWhile Char.isDigit)
      return .operand value :: (← ofText (t.dropWhile Char.isDigit))) := by
  have hBlank : isBlank c = false := by
    by_contra hBlank
    rw [isDigit_eq_false_of_isBlank (by simpa using hBlank)] at h
    cases h
  rw [ofText.eq_def]
  simp [h, hBlank]

theorem ofText_single {c : Char} (hBlank : isBlank c = false) (hDigit : c.isDigit = false)
    (hShift : c ≠ '<' ∧ c ≠ '>') (t : Text) :
    ofText (c :: t) = (do
      let op ← Operator.ofSymbol [c]
      return .operator op :: (← ofText t)) := by
  rw [ofText.eq_def]
  simp [hBlank, hDigit, hShift]

theorem isBlank_and_isDigit_of_shift {c : Char} (hShift : c = '<' ∨ c = '>') :
    isBlank c = false ∧ c.isDigit = false := by
  rcases hShift with rfl | rfl <;> exact ⟨rfl, rfl⟩

theorem ofText_double {c : Char} (hShift : c = '<' ∨ c = '>') (t : Text) :
    ofText (c :: c :: t) = (do
      let op ← Operator.ofSymbol [c, c]
      return .operator op :: (← ofText t)) := by
  obtain ⟨hBlank, hDigit⟩ := isBlank_and_isDigit_of_shift hShift
  rw [ofText.eq_def]
  simp [hBlank, hDigit, hShift]

theorem literal_eq_ok {digits : Text} (h : Decimal.value digits < 2 ^ 31) :
    literal digits = .ok (Int32.ofNat (Decimal.value digits)) :=
  if_pos h

/-- A run of digits with no digit behind it is read as one literal. -/
theorem ofText_run_append {digits : Text} (hNe : digits ≠ []) (hDigits : ∀ d ∈ digits, d.isDigit)
    {t : Text} (ht : ∀ c ∈ t.head?, c.isDigit = false) :
    ofText (digits ++ t) = (do
      let value ← literal digits
      return .operand value :: (← ofText t)) := by
  cases digits with
  | nil => exact absurd rfl hNe
  | cons c cs =>
    rw [List.forall_mem_cons] at hDigits
    rw [List.cons_append, ofText_digit hDigits.1, takeWhile_append_of_head? hDigits.2 ht,
      dropWhile_append_of_head? hDigits.2 ht]

theorem ofText_digits_append {digits : Text} (hNe : digits ≠ []) (hDigits : ∀ d ∈ digits, d.isDigit)
    (hValue : Decimal.value digits < 2 ^ 31) {t : Text} (ht : ∀ c ∈ t.head?, c.isDigit = false) :
    ofText (digits ++ t) =
      (.operand (Int32.ofNat (Decimal.value digits)) :: ·) <$> ofText t := by
  rw [ofText_run_append hNe hDigits ht, literal_eq_ok hValue]
  rfl

theorem ofText_symbol_append (op : Operator) (t : Text) :
    ofText (op.symbol ++ t) = (.operator op :: ·) <$> ofText t := by
  have hOp := op.ofSymbol_symbol
  rcases op.symbol_eq_single_or_double with ⟨c, hSymbol, hBlank, hDigit, hShift⟩ |
    ⟨c, hSymbol, hShift⟩
  · rw [hSymbol] at hOp ⊢
    rw [List.singleton_append, ofText_single hBlank hDigit hShift, hOp]
    rfl
  · rw [hSymbol] at hOp ⊢
    rw [List.cons_append, List.singleton_append, ofText_double hShift, hOp]
    rfl

end Token

/-- Cutting a written token list gives it back. -/
theorem Written.ofText_eq {ts : List Token} {t : Text} (h : Written ts t) {wanted : Bool}
    (hAlternates : alternates wanted ts) : Token.ofText t = .ok ts := by
  induction h generalizing wanted with
  | nil => simp [Token.ofText]
  | blank hBlank _ ih => rw [Token.ofText_blank hBlank, ih hAlternates]
  | operand digits hNe hDigits hValue h ih =>
    simp only [alternates, Bool.and_eq_true] at hAlternates
    rw [Token.ofText_digits_append hNe hDigits hValue (h.head?_isDigit hAlternates.2),
      ih hAlternates.2]
    rfl
  | operator op _ ih =>
    simp only [alternates, Bool.and_eq_true] at hAlternates
    rw [Token.ofText_symbol_append, ih hAlternates.2]
    rfl

end Prose.Expr
