import Prose.Proofs.Expr.Remainder
import Prose.Proofs.Expr.Substitution
import Prose.Proofs.Result
import Prose.Proofs.Text.Fields

/-!
# Printed postfix expressions

A postfix expression is printed with one space between its tokens. Reading it gives back the same
tokens, whatever integers they have, and finds every bracket among them (`Postfix.ofText_text`).
Cutting it like an infix text gives the tokens too, brackets included, as long as no operand is
negative (`Token.ofText_text`): in front of a numeral an infix text takes a minus sign for an
operator.
-/

namespace Prose.Expr

/-! ### Printed tokens -/

theorem Operator.symbol_ne_nil (op : Operator) : op.symbol ≠ [] := by
  rcases op.symbol_eq_single_or_double with ⟨c, h, -⟩ | ⟨c, h, -⟩ <;> simp [h]

theorem Token.text_ne_nil (token : Token) : token.text ≠ [] := by
  cases token with
  | operand v => exact Decimal.ofInt_ne_nil _
  | operator op => exact op.symbol_ne_nil

theorem Token.isSpace_eq_false {token : Token} {c : Char} (h : c ∈ token.text) :
    isSpace c = false := by
  refine Embedded.isSpace_eq_false_of_isExprChar ?_
  cases token with
  | operand v => exact Embedded.isExprChar_of_mem_ofInt h
  | operator op => exact op.isExprChar_of_mem_symbol h

namespace Postfix

/-! ### Reading back -/

theorem int32?_symbol (op : Operator) : Decimal.int32? op.symbol = none := by
  simpa using op.of_all_all (p := fun op => Decimal.int32? op.symbol == none) (by decide)

/-- A symbol is no numeral, not even the two signs, so every token is read back but brackets. -/
theorem token_text (token : Token) : Postfix.token token.text =
    if token.isBracket then .error (.malformed .bracketInPostfix) else .ok token := by
  cases token with
  | operand v =>
    rw [Token.text, Postfix.token, Decimal.int32?_ofInt]
    rfl
  | operator op =>
    rw [Token.text, Postfix.token, int32?_symbol, op.ofSymbol_symbol]
    rfl

theorem mapM_token_text (ts : List Token) : (ts.map Token.text).mapM Postfix.token =
    if ts.any Token.isBracket then .error (.malformed .bracketInPostfix) else .ok ts := by
  induction ts with
  | nil => rfl
  | cons token ts ih =>
    rw [List.map_cons, List.mapM_cons, ih, token_text, List.any_cons]
    cases token.isBracket <;> cases ts.any Token.isBracket <;> rfl

/-- The fields of a printed expression are its printed tokens. -/
theorem fields_text (ts : List Token) : Text.fields isSpace (text ⟨ts⟩) = ts.map Token.text := by
  refine Text.fields_join rfl (fun part hPart => ?_) fun part hPart => ?_
  · obtain ⟨token, -, rfl⟩ := List.mem_map.1 hPart
    exact token.text_ne_nil
  · obtain ⟨token, -, rfl⟩ := List.mem_map.1 hPart
    exact fun c => Token.isSpace_eq_false

theorem ofText_text (ts : List Token) : ofText (text ⟨ts⟩) =
    if ts.any Token.isBracket then .error (.malformed .bracketInPostfix) else .ok ⟨ts⟩ := by
  rw [ofText, fields_text, mapM_token_text]
  split <;> rfl

theorem isBracket_eq_false_of_token {part : Text} {token : Token}
    (h : Postfix.token part = .ok token) : token.isBracket = false := by
  unfold Postfix.token at h
  split at h
  · cases h
    rfl
  · obtain ⟨op, -, h⟩ := bind_eq_ok_iff.1 h
    split at h
    next => cases h
    next hOp =>
      cases h
      exact Bool.eq_false_iff.2 hOp

/-- What has been read has no brackets. -/
theorem isBracket_eq_false_of_ofText {t : Text} {e : Postfix} (h : ofText t = .ok e) :
    ∀ token ∈ e.tokens, token.isBracket = false := by
  obtain ⟨ts, hTokens, rfl⟩ := map_eq_ok_iff.1 h
  intro token hToken
  obtain ⟨part, -, hPart⟩ := exists_of_mem_mapM hTokens hToken
  exact isBracket_eq_false_of_token hPart

end Postfix

/-! ### Cutting a printed expression -/

namespace Token

theorem ofText_text_append {token : Token} (h : ∀ v, token = .operand v → 0 ≤ v.toInt) {t : Text}
    (ht : ∀ c ∈ t.head?, c.isDigit = false) :
    ofText (token.text ++ t) = (token :: ·) <$> ofText t := by
  cases token with
  | operand v =>
    have hNonneg : 0 ≤ v.toInt := h v rfl
    have hHigh := Int32.toInt_lt v
    rw [text, Decimal.ofInt_of_nonneg hNonneg, ofText_digits_append (Decimal.ofNat_ne_nil _)
      (fun _ => Decimal.isDigit_of_mem_ofNat) _ ht, Decimal.value_ofNat,
      Decimal.int32OfNat_natAbs hNonneg]
    rw [Decimal.value_ofNat]
    omega
  | operator op => exact ofText_symbol_append op t

/-- A printed expression without negative operands is cut into its tokens. -/
theorem ofText_text {ts : List Token} (h : ∀ v, .operand v ∈ ts → 0 ≤ v.toInt) :
    ofText (Postfix.text ⟨ts⟩) = .ok ts := by
  induction ts with
  | nil => exact ofText.eq_1
  | cons token ts ih =>
    have hFirst : ∀ v, token = .operand v → 0 ≤ v.toInt := fun v hv => h v (by simp [hv])
    have hRest := ih fun v hv => h v (List.mem_cons_of_mem _ hv)
    cases ts with
    | nil =>
      have hText := ofText_text_append hFirst (t := []) (by simp)
      rw [List.append_nil, ofText] at hText
      rw [Postfix.text, List.map_singleton, Text.join_singleton]
      exact hText
    | cons token' ts =>
      have hText : Postfix.text ⟨token :: token' :: ts⟩ =
          token.text ++ ' ' :: Postfix.text ⟨token' :: ts⟩ := by
        simp only [Postfix.text, List.map_cons, Text.join_cons_cons, List.append_assoc,
          List.singleton_append]
      rw [hText, ofText_text_append hFirst (by simp), ofText_blank rfl, hRest]
      rfl

end Token

/-- Printing and reading are inverse. Printed tokens are read back whatever their integers are, also
as an infix text when none is negative; brackets are refused; and what has been read stays the same
when it is printed and read again. -/
theorem Postfix.ofText_text_and_refuses_brackets :
    (∀ ts : List Token, (∀ token ∈ ts, token.isBracket = false) →
      ofText (text ⟨ts⟩) = .ok ⟨ts⟩ ∧
        ((∀ v, .operand v ∈ ts → 0 ≤ v.toInt) → Token.ofText (text ⟨ts⟩) = .ok ts)) ∧
    (∀ ts : List Token, (∃ token ∈ ts, token.isBracket) →
      ofText (text ⟨ts⟩) = .error (.malformed .bracketInPostfix)) ∧
    (∀ t e, ofText t = .ok e → ofText e.text = .ok e) ∧
    Defect.bracketInPostfix.message = "brackets are not allowed in postfix".toList := by
  have hReads {ts : List Token} (h : ∀ token ∈ ts, token.isBracket = false) :
      ofText (text ⟨ts⟩) = .ok ⟨ts⟩ := by
    rw [ofText_text, if_neg (by simpa using h)]
  refine ⟨fun ts h => ⟨hReads h, Token.ofText_text⟩, fun ts h => ?_, fun t e h => ?_, rfl⟩
  · rw [ofText_text, if_pos (List.any_eq_true.2 h)]
  · exact hReads (isBracket_eq_false_of_ofText h)

/-- The least integer, a sign that is an operator and one that is part of a numeral. -/
def signs : List Token :=
  [.operand (-2147483648), .operand 5, .operator (.binary .sub), .operand (-1),
    .operator (.binary .add)]

theorem Postfix.ofText_text_signs :
    (∀ token ∈ signs, token.isBracket = false) ∧
      Postfix.text ⟨signs⟩ = "-2147483648 5 - -1 +".toList ∧
      ofText "-2147483648 5 - -1 +".toList = .ok ⟨signs⟩ := by
  have hBrackets : ∀ token ∈ signs, token.isBracket = false := by decide
  have hText : Postfix.text ⟨signs⟩ = "-2147483648 5 - -1 +".toList := by cbv
  obtain ⟨hReads, -⟩ := ofText_text_and_refuses_brackets
  exact ⟨hBrackets, hText, hText ▸ (hReads signs hBrackets).1⟩

end Prose.Expr
