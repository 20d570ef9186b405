import Prose.Expr.Embedded
import Prose.Proofs.Expr.Brackets
import Prose.Proofs.Expr.Conversion
import Prose.Proofs.Expr.Written

/-!
# Values of infix texts

A written spelling of a tree is put into the postorder of the tree and has its value
(`Spells.ofInfix_and_evalInfix`).

The converse fails. The conversion counts brackets and the machine counts values, so a text with a
value has closed brackets, but its operands need not stand where they are wanted. That is all that
is missing: the infix expressions are the texts with a value whose tokens alternate
(`isInfix_iff_valued_and_alternates`).
-/

namespace Prose.Expr

/-! ### Written spellings -/

theorem Spells.ne_nil {e : Tree} {rate : Nat} {ts : List Token} (h : Spells e rate ts) :
    ts ≠ [] := by
  cases h <;> simp

theorem Spells.alternates {e : Tree} {rate : Nat} {ts : List Token} (h : Spells e rate ts) :
    alternates true ts :=
  (derives_iff_alternates_and_closes.1 h.derives).1

theorem Spells.ofInfix_eq {e : Tree} {rate : Nat} {ts : List Token} {t : Text}
    (h : Spells e rate ts) (hText : Token.ofText t = .ok ts) :
    Postfix.ofInfix t = .ok ⟨e.postorder⟩ := by
  rw [Postfix.ofInfix_eq hText h.ne_nil, h.convert_eq]
  rfl

theorem Spells.evalInfix_eq {e : Tree} {rate : Nat} {ts : List Token} {t : Text}
    (h : Spells e rate ts) (hText : Token.ofText t = .ok ts) : evalInfix t = .ok e.value := by
  rw [evalInfix, h.ofInfix_eq hText]
  exact e.eval_postorder

/-- A written spelling of a tree is converted to its postorder and has its value. -/
theorem Spells.ofInfix_and_evalInfix {e : Tree} {rate : Nat} {ts : List Token} {t : Text}
    (hSpells : Spells e rate ts) (hWritten : Written ts t) :
    Postfix.ofInfix t = .ok ⟨e.postorder⟩ ∧ evalInfix t = .ok e.value := by
  have hText : Token.ofText t = .ok ts := hWritten.ofText_eq hSpells.alternates
  exact ⟨hSpells.ofInfix_eq hText, hSpells.evalInfix_eq hText⟩

/-- A spelling with brackets, blanks, a leading zero and a shift by more than 31 bits. -/
theorem value_of_spelled_shift :
    let e : Tree := .binary .sub (.literal 7)
      (.binary .shiftLeft (.complement (.binary .add (.literal 1) (.literal 2))) (.literal 33))
    let ts : List Token := [.operand 7, .operator (.binary .sub), .operator .complement,
      .operator .openBracket, .operand 1, .operator (.binary .add), .operand 2,
      .operator .closeBracket, .operator (.binary .shiftLeft), .operand 33]
    let t : Text :=
      [' ', '7', ' ', '-', '~', '(', '1', '+', '\t', '0', '2', ')', '<', '<', '3', '3']
    Spells e 2 ts ∧ Written ts t ∧ Postfix.ofInfix t = .ok ⟨e.postorder⟩ ∧
      evalInfix t = .ok 15 := by
  intro e ts t
  have hSpells : Spells e 2 ts :=
    .binary (.literal 7) (.binary (.complement (.bracket (.binary (.literal 1) (.literal 2)
      (by decide) (by decide))) (by decide)) (.literal 33) (by decide) (by decide))
      (by decide) (by decide)
  have hWritten : Written ts t :=
    .blank rfl <| .operand ['7'] nofun (List.all_eq_true.1 rfl) (by decide) <| .blank rfl <|
    .operator (.binary .sub) <| .operator .complement <| .operator .openBracket <|
    .operand ['1'] nofun (List.all_eq_true.1 rfl) (by decide) <| .operator (.binary .add) <|
    .blank rfl <|
    .operand ['0', '2'] nofun (List.all_eq_true.1 rfl) (by decide) <| .operator .closeBracket <|
    .operator (.binary .shiftLeft) <|
    .operand ['3', '3'] nofun (List.all_eq_true.1 rfl) (by decide) .nil
  exact ⟨hSpells, hWritten, hSpells.ofInfix_and_evalInfix hWritten⟩

/-! ### Texts with a value -/

theorem Postfix.convert_of_ofTokens {ts : List Token} {p : Postfix} (h : ofTokens ts = .ok p) :
    convert [] ts = .ok p.tokens := by
  unfold ofTokens at h
  split at h
  · cases h
  · obtain ⟨out, hConvert, rfl⟩ := map_eq_ok_iff.1 h
    exact hConvert

/-- The tokens of a text with a value can be converted. -/
theorem exists_convert_of_evalInfix {t : Text} {v : Int32} (h : evalInfix t = .ok v) :
    ∃ ts out, Token.ofText t = .ok ts ∧ Postfix.convert [] ts = .ok out := by
  obtain ⟨p, hInfix, -⟩ := bind_eq_ok_iff.1 h
  obtain ⟨ts, hText, hTokens⟩ := bind_eq_ok_iff.1 hInfix
  exact ⟨ts, p.tokens, hText, Postfix.convert_of_ofTokens hTokens⟩

/-- A text is an infix expression exactly when it has a value and its operands start where they are
wanted. -/
theorem isInfix_iff_valued_and_alternates (t : Text) :
    (∃ ts, Token.ofText t = .ok ts ∧ Derives ts) ↔
      (∃ v, evalInfix t = .ok v) ∧ ∃ ts, Token.ofText t = .ok ts ∧ alternates true ts := by
  constructor
  · rintro ⟨ts, hText, hDerives⟩
    obtain ⟨e, rate, hSpells⟩ := derives_iff_exists_spells.1 hDerives
    exact ⟨⟨e.value, hSpells.evalInfix_eq hText⟩, ts, hText, hSpells.alternates⟩
  · rintro ⟨⟨v, hValue⟩, ts, hText, hAlternates⟩
    obtain ⟨ts', out, hText', hConvert⟩ := exists_convert_of_evalInfix hValue
    obtain rfl : ts' = ts := by rw [hText'] at hText; exact Except.ok.inj hText
    have hCloses : closes 0 ts' := Postfix.closes_of_convert hConvert
    exact ⟨ts', hText, derives_iff_alternates_and_closes.2 ⟨hAlternates, hCloses⟩⟩

/-- Brackets around nothing are dropped, so this text has a value and is replaced by it. -/
theorem empty_brackets_valued :
    evalInfix "()3+4".toList = .ok 7 ∧ Embedded.substitute "()3+4".toList = "7".toList ∧
      ¬ ∃ ts, Token.ofText "()3+4".toList = .ok ts ∧ Derives ts := by
  refine ⟨by cbv, by cbv, ?_⟩
  rintro ⟨ts, hText, hDerives⟩
  have hTokens : Token.ofText "()3+4".toList = .ok [.operator .openBracket,
    .operator .closeBracket, .operand 3, .operator (.binary .add), .operand 4] := by cbv
  rw [hTokens] at hText
  obtain rfl := Except.ok.inj hText
  have hAlternates := (derives_iff_alternates_and_closes.1 hDerives).1
  cases hAlternates

end Prose.Expr
