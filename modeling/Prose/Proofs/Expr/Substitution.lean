import Prose.Proofs.Expr.Candidate
import Prose.Proofs.Expr.Infix
import Prose.Proofs.Expr.Locality

/-!
# Expressions in a text are substituted

A spelling without blanks is one run of expression characters, and all of it is the candidate: it
starts like an operand and ends like one. It has as many opening as closing brackets, so brackets
that are put around it are balanced up to the surplus on one side, and what is left is a spelling
again. Between neutral characters such a run is replaced by its value
(`substitute_replicate_brackets`).
-/

namespace Prose.Expr

open Embedded

/-! ### Spellings without blanks -/

/-- What holds of every operator in the table holds of all operators. -/
theorem Operator.of_all_all {p : Operator → Bool} (h : all.all p) (op : Operator) : p op :=
  List.all_eq_true.1 h op op.mem_all

theorem Operator.isExprChar_of_mem_symbol {op : Operator} {c : Char} (h : c ∈ op.symbol) :
    isExprChar c :=
  List.all_eq_true.1 (op.of_all_all (p := fun op => op.symbol.all isExprChar) (by decide)) c h

theorem Operator.isOperatorChar_of_mem_symbol {op : Operator} (hOp : op.isBracket = false)
    {c : Char} (h : c ∈ op.symbol) : isOperatorChar c := by
  have hAll := op.of_all_all (p := fun op => op.isBracket || op.symbol.all isOperatorChar)
    (by decide)
  rw [hOp, Bool.false_or] at hAll
  exact List.all_eq_true.1 hAll c h

theorem Written.append {ts us : List Token} {t u : Text} (h : Written ts t) (g : Written us u) :
    Written (ts ++ us) (t ++ u) := by
  induction h with
  | nil => exact g
  | blank hBlank _ ih => exact .blank hBlank ih
  | operand digits hNe hDigits hValue _ ih =>
    rw [List.append_assoc]
    exact .operand digits hNe hDigits hValue ih
  | operator op _ ih =>
    rw [List.append_assoc]
    exact .operator op ih

theorem Written.isExprChar {ts : List Token} {t : Text} (h : Written ts t)
    (hBlank : ∀ c ∈ t, isBlank c = false) : ∀ c ∈ t, isExprChar c := by
  induction h with
  | nil => simp
  | blank hc _ _ => simp [hc] at hBlank
  | operand digits _ hDigits _ _ ih =>
    rw [List.forall_mem_append] at hBlank ⊢
    exact ⟨fun c hc => isExprChar_of_isDigit (hDigits c hc), ih hBlank.2⟩
  | operator op _ ih =>
    rw [List.forall_mem_append] at hBlank ⊢
    exact ⟨fun c hc => Operator.isExprChar_of_mem_symbol hc, ih hBlank.2⟩

theorem Operator.count_openBracket_symbol (op : Operator) :
    op.symbol.count '(' = if op = .openBracket then 1 else 0 :=
  eq_of_beq (op.of_all_all
    (p := fun op => op.symbol.count '(' == if op = .openBracket then 1 else 0) (by decide))

theorem Operator.count_closeBracket_symbol (op : Operator) :
    op.symbol.count ')' = if op = .closeBracket then 1 else 0 :=
  eq_of_beq (op.of_all_all
    (p := fun op => op.symbol.count ')' == if op = .closeBracket then 1 else 0) (by decide))

/-- A character that only the symbol of one operator has, and only once, stands in a text as often
as the operator among the tokens. -/
theorem Written.count_eq {ts : List Token} {t : Text} (h : Written ts t) {b : Operator} {c : Char}
    (hBlank : isBlank c = false) (hDigit : c.isDigit = false)
    (hSymbol : ∀ op : Operator, op.symbol.count c = if op = b then 1 else 0) :
    t.count c = ts.count (.operator b) := by
  induction h with
  | nil => rfl
  | @blank d ts t hd _ ih =>
    have hNe : d ≠ c := fun hEq => by simp [← hEq, hd] at hBlank
    rw [List.count_cons_of_ne hNe, ih]
  | operand digits _ hDigits _ _ ih =>
    have hNotMem : c ∉ digits := fun hMem => by simp [hDigits c hMem] at hDigit
    rw [List.count_append, List.count_eq_zero_of_not_mem hNotMem, ih, Nat.zero_add,
      List.count_cons_of_ne (by simp)]
  | operator op _ ih =>
    rw [List.count_append, hSymbol, ih, List.count_cons]
    by_cases hOp : op = b <;> simp [hOp, Nat.add_comm]

theorem Spells.count_brackets {e : Tree} {rate : Nat} {ts : List Token} (h : Spells e rate ts) :
    ts.count (.operator .openBracket) = ts.count (.operator .closeBracket) := by
  induction h with
  | literal v => rfl
  | bracket _ ih => simp [ih]
  | complement _ _ ih => simpa using ih
  | binary _ _ _ _ ihLeft ihRight => simp [ihLeft, ihRight]

/-- Where an operand is wanted the text starts like one. -/
theorem Written.starts_head? {ts : List Token} {t : Text} (h : Written ts t)
    (hBlank : ∀ c ∈ t, isBlank c = false) (hAlternates : alternates true ts) :
    ∃ c ∈ t.head?, starts c := by
  cases h with
  | nil => cases hAlternates
  | blank hc _ => simp [hc] at hBlank
  | operand digits hNe hDigits _ _ =>
    obtain ⟨d, ds, rfl⟩ := List.exists_cons_of_ne_nil hNe
    exact ⟨d, rfl, by simp [starts, hDigits d]⟩
  | operator op _ =>
    cases op with
    | complement => exact ⟨'~', rfl, by decide⟩
    | openBracket => exact ⟨'(', rfl, by decide⟩
    | closeBracket => simp at hAlternates
    | binary _ => simp at hAlternates

/-- Without blanks only the empty token list is written as the empty text. -/
theorem Written.eq_nil {ts : List Token} (h : Written ts []) : ts = [] := by
  generalize hText : ([] : Text) = t at h
  cases h with
  | nil => rfl
  | blank => cases hText
  | operand digits hNe =>
    obtain ⟨hDigits, -⟩ := List.append_eq_nil_iff.1 hText.symm
    exact absurd hDigits hNe
  | operator op =>
    obtain ⟨hSymbol, -⟩ := List.append_eq_nil_iff.1 hText.symm
    rcases op.symbol_eq_single_or_double with ⟨c, h, -⟩ | ⟨c, h, -⟩ <;> rw [h] at hSymbol <;>
      cases hSymbol

/-- The text ends like an operand. -/
theorem Written.ends_getLast? {ts : List Token} {t : Text} (h : Written ts t)
    (hBlank : ∀ c ∈ t, isBlank c = false) {wanted : Bool} (hAlternates : alternates wanted ts) :
    ∀ c ∈ t.getLast?, ends c := by
  induction h generalizing wanted with
  | nil => simp
  | blank hc _ _ => simp [hc] at hBlank
  | operand digits _ hDigits _ _ ih =>
    simp only [alternates, Bool.and_eq_true] at hAlternates
    rw [List.forall_mem_append] at hBlank
    intro c hc
    rw [List.getLast?_append, Option.mem_def, Option.or_eq_some_iff] at hc
    rcases hc with hc | ⟨-, hc⟩
    · exact ih hBlank.2 hAlternates.2 c hc
    · simp [ends, hDigits c (List.mem_of_getLast? hc)]
  | @operator op ts t h ih =>
    simp only [alternates, Bool.and_eq_true] at hAlternates
    rw [List.forall_mem_append] at hBlank
    intro c hc
    rw [List.getLast?_append, Option.mem_def, Option.or_eq_some_iff] at hc
    rcases hc with hc | ⟨hNone, hc⟩
    · exact ih hBlank.2 hAlternates.2 c hc
    · -- nothing follows, so no operand is wanted behind `op`
      obtain rfl : t = [] := List.getLast?_eq_none_iff.1 hNone
      obtain rfl : ts = [] := h.eq_nil
      have hEnds : Token.endsOperand (.operator op) := by simpa using hAlternates.2
      cases op with
      | closeBracket =>
        obtain rfl : ')' = c := Option.some.inj hc
        decide
      | complement => cases hEnds
      | openBracket => cases hEnds
      | binary _ => cases hEnds

theorem Spells.exists_operator {e : Tree} {rate : Nat} {ts : List Token} (h : Spells e rate ts)
    (hOperator : e.isLiteral = false) : ∃ op, op.isBracket = false ∧ .operator op ∈ ts := by
  induction h with
  | literal v => cases hOperator
  | bracket _ ih =>
    obtain ⟨op, hOp, hMem⟩ := ih hOperator
    exact ⟨op, hOp, by simp [hMem]⟩
  | complement => exact ⟨.complement, rfl, by simp⟩
  | @binary op => exact ⟨.binary op, rfl, by simp⟩

theorem Written.any_isOperatorChar {ts : List Token} {t : Text} (h : Written ts t) {op : Operator}
    (hOp : op.isBracket = false) (hMem : .operator op ∈ ts) : t.any isOperatorChar := by
  induction h with
  | nil => cases hMem
  | blank _ _ ih => simp [ih hMem]
  | operand digits _ _ _ _ ih => simp [ih (by simpa using hMem)]
  | operator op' _ ih =>
    rw [List.any_append, Bool.or_eq_true]
    rcases List.mem_cons.1 hMem with hEq | hMem
    · obtain rfl : op = op' := Token.operator.inj hEq
      left
      rcases op.symbol_eq_single_or_double with ⟨c, h, -⟩ | ⟨c, h, -⟩ <;>
        simp [h, Operator.isOperatorChar_of_mem_symbol hOp (c := c)]
    · exact .inr (ih hMem)

/-- Brackets around a spelling make a spelling. -/
theorem Spells.exists_bracketed {e : Tree} {rate : Nat} {ts : List Token} {t : Text}
    (hSpells : Spells e rate ts) (hWritten : Written ts t) (n : Nat) :
    ∃ rate' ts', Spells e rate' ts' ∧
      Written ts' (List.replicate n '(' ++ t ++ List.replicate n ')') := by
  induction n with
  | zero => exact ⟨rate, ts, hSpells, by simpa using hWritten⟩
  | succ n ih =>
    obtain ⟨rate', ts', hSpells', hWritten'⟩ := ih
    refine ⟨_, _, hSpells'.bracket, ?_⟩
    have hText := Written.operator .openBracket (hWritten'.append (.operator .closeBracket .nil))
    rw [List.replicate_succ, List.replicate_succ']
    simpa [Operator.symbol] using hText

/-! ### Substitution -/

/-- A spelling without blanks, alone but for brackets. -/
theorem Spells.substitute_eq {e : Tree} {rate : Nat} {ts : List Token} {t : Text}
    (hSpells : Spells e rate ts) (hOperator : e.isLiteral = false) (hWritten : Written ts t)
    (hBlank : ∀ c ∈ t, isBlank c = false) (k m : Nat) :
    substitute (List.replicate k '(' ++ t ++ List.replicate m ')') =
      List.replicate (k - m) '(' ++ Decimal.ofInt e.value.toInt ++ List.replicate (m - k) ')' := by
  obtain ⟨op, hOp, hMem⟩ := hSpells.exists_operator hOperator
  have hAny : t.any isOperatorChar := hWritten.any_isOperatorChar hOp hMem
  have hStart := hWritten.starts_head? hBlank hSpells.alternates
  have hEnd := hWritten.ends_getLast? hBlank hSpells.alternates
  have hNe : t ≠ [] := by
    rintro rfl
    cases hAny
  have hCount : t.count '(' = t.count ')' := by
    rw [hWritten.count_eq rfl rfl Operator.count_openBracket_symbol, hSpells.count_brackets,
      ← hWritten.count_eq rfl rfl Operator.count_closeBracket_symbol]
  -- what balancing leaves in the middle is a spelling again
  obtain ⟨rate', ts', hSpells', hWritten'⟩ := hSpells.exists_bracketed hWritten (min k m)
  have hValue := hSpells'.evalInfix_eq (hWritten'.ofText_eq hSpells'.alternates)
  have hExpr : ∀ c ∈ List.replicate k '(' ++ t ++ List.replicate m ')', isExprChar c := by
    intro c hc
    simp only [List.mem_append, List.mem_replicate] at hc
    rcases hc with (⟨-, rfl⟩ | hc) | ⟨-, rfl⟩
    · decide
    · exact hWritten.isExprChar hBlank c hc
    · decide
  have hCandidate := candidate_eq_self (starts_replicate_append hStart k (List.replicate m ')'))
    (ends_append_replicate hNe hEnd m (List.replicate k '('))
  have hFragment := balance_replicate hCount k m
  have hReplaces :
      Replaces none (List.replicate k '(' ++ t ++ List.replicate m ')') none e.value := by
    constructor <;> simp only [fragment, hCandidate, hFragment]
    case noOperatorBefore => rfl
    case noOperatorAfter => rfl
    case hasOperator => simp [hAny]
    case noWordBefore =>
      rw [List.getLast?_replicate]
      split <;> rfl
    case noWordAfter =>
      rw [List.head?_replicate]
      split <;> rfl
    case value => exact hValue
  rw [substitute, rewrite_of_isExprChar hExpr (by simp [hNe]), hReplaces.rewriteRun_eq]
  simp only [around, fragment, hCandidate, hFragment, List.nil_append, List.append_nil]

/-- Between neutral characters a spelling without blanks is replaced by its value, whatever
brackets stand around it; those without a partner stay. -/
theorem substitute_replicate_brackets {e : Tree} {rate : Nat} {ts : List Token} {t : Text}
    (hSpells : Spells e rate ts) (hOperator : e.isLiteral = false) (hWritten : Written ts t)
    (hBlank : ∀ c ∈ t, isBlank c = false) (k m : Nat) {before after : Text}
    (hBefore : ∀ c ∈ before.getLast?, isNeutral c) (hAfter : ∀ c ∈ after.head?, isNeutral c) :
    substitute (before ++ (List.replicate k '(' ++ t ++ List.replicate m ')') ++ after) =
      substitute before ++ List.replicate (k - m) '(' ++ Decimal.ofInt e.value.toInt
        ++ List.replicate (m - k) ')' ++ substitute after := by
  rw [substitute_append_of_head? hAfter, substitute_append_of_getLast? hBefore,
    hSpells.substitute_eq hOperator hWritten hBlank]
  simp only [List.append_assoc]

/-- One opening bracket of two has no partner and stays. -/
theorem substitute_surplus_bracket :
    let e : Tree := .complement (.literal 6)
    let ts : List Token := [.operator .complement, .operand 6]
    let before : Text := ['i', 's', ' ']
    let after : Text := [',', ' ', 'n', 'o']
    Spells e 13 ts ∧ e.isLiteral = false ∧ Written ts ['~', '6'] ∧
      (∀ c ∈ ['~', '6'], isBlank c = false) ∧ (∀ c ∈ before.getLast?, isNeutral c) ∧
      (∀ c ∈ after.head?, isNeutral c) ∧
      substitute (before ++ (List.replicate 2 '(' ++ ['~', '6'] ++ List.replicate 1 ')') ++ after) =
        before ++ ['(', '-', '7'] ++ after := by
  intro e ts before after
  have hSpells : Spells e 13 ts := .complement (.literal 6) (by decide)
  have hWritten : Written ts ['~', '6'] :=
    .operator .complement <| .operand ['6'] nofun (List.all_eq_true.1 rfl) (by decide) .nil
  have hBlank : ∀ c ∈ ['~', '6'], isBlank c = false := by simp [isBlank]
  have hBefore : ∀ c ∈ before.getLast?, isNeutral c := by rintro c ⟨⟩; rfl
  have hAfter : ∀ c ∈ after.head?, isNeutral c := by rintro c ⟨⟩; rfl
  refine ⟨hSpells, rfl, hWritten, hBlank, hBefore, hAfter, ?_⟩
  have hKeptBefore : substitute before = before := by cbv
  have hKeptAfter : substitute after = after := by cbv
  rw [substitute_replicate_brackets hSpells rfl hWritten hBlank 2 1 hBefore hAfter, hKeptBefore,
    hKeptAfter]
  decide

end Prose.Expr
