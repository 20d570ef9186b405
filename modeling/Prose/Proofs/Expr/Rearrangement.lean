import Prose.Proofs.Expr.Brackets
import Prose.Proofs.Expr.Conversion

/-!
# What the conversion does to the tokens

`Sends stack ts out` has one rule for every kind of token and leaves open how many waiting operators
a binary operator sends out. That is enough to see that the conversion drops the brackets, moves
operators and does nothing else: what goes out are the tokens read and the operators waiting in
front of them, in some order (`Sends.perm`), and the operands keep theirs
(`Sends.filter_isOperand`).

It fails on brackets that are not opened or not closed, and on nothing else
(`ofInfix_faults_and_rearrangement`).
-/

namespace Prose.Expr.Postfix

/-- With the operators `stack` waiting, reading the tokens `ts` sends out `out`. -/
inductive Sends : List Operator → List Token → List Token → Prop
  | flush {stack : List Operator} : .openBracket ∉ stack → Sends stack [] (stack.map .operator)
  | operand {stack : List Operator} {ts out : List Token} (v : Int32) : Sends stack ts out →
      Sends stack (.operand v :: ts) (.operand v :: out)
  | openBracket {stack : List Operator} {ts out : List Token} :
      Sends (.openBracket :: stack) ts out → Sends stack (.operator .openBracket :: ts) out
  | closeBracket {sent stack : List Operator} {ts out : List Token} : .openBracket ∉ sent →
      Sends stack ts out →
      Sends (sent ++ .openBracket :: stack) (.operator .closeBracket :: ts)
        (sent.map .operator ++ out)
  | complement {stack : List Operator} {ts out : List Token} : Sends (.complement :: stack) ts out →
      Sends stack (.operator .complement :: ts) out
  | binary {sent stack : List Operator} {ts out : List Token} (op : BinaryOp) :
      .openBracket ∉ sent → Sends (.binary op :: stack) ts out →
      Sends (sent ++ stack) (.operator (.binary op) :: ts) (sent.map .operator ++ out)

theorem eq_map_of_flush {stack : List Operator} {out : List Token} (h : flush stack = .ok out) :
    .openBracket ∉ stack ∧ out = stack.map .operator := by
  have hNot : .openBracket ∉ stack := by
    intro hMem
    have hFault := flush_eq_error_iff.2 ⟨(List.count_pos_iff.2 hMem).ne', rfl⟩
    rw [h] at hFault
    cases hFault
  rw [flush_eq_ok fun op hOp => ne_of_mem_of_not_mem hOp hNot] at h
  exact ⟨hNot, (Except.ok.inj h).symm⟩

theorem sends_of_convert {stack : List Operator} {ts out : List Token}
    (h : convert stack ts = .ok out) : Sends stack ts out := by
  induction ts generalizing stack out with
  | nil =>
    obtain ⟨hNot, rfl⟩ := eq_map_of_flush h
    exact .flush hNot
  | cons t ts ih =>
    match t with
    | .operand v =>
      rw [convert, bind_pure_comp, map_eq_ok_iff] at h
      obtain ⟨out, hRest, rfl⟩ := h
      exact .operand v (ih hRest)
    | .operator .openBracket => exact .openBracket (ih h)
    | .operator .closeBracket =>
      rw [convert] at h
      cases hPop : popToOpen stack with
      | none =>
        rw [hPop] at h
        cases h
      | some parts =>
        rw [hPop] at h
        obtain ⟨out, hRest, rfl⟩ := map_eq_ok_iff.1 h
        obtain ⟨rfl, hSent⟩ := eq_append_of_popToOpen hPop
        exact .closeBracket hSent (ih hRest)
    | .operator .complement => exact .complement (ih h)
    | .operator (.binary op) =>
      rw [convert, bind_pure_comp, map_eq_ok_iff] at h
      obtain ⟨out, hRest, rfl⟩ := h
      have hSends := Sends.binary op (not_mem_takeWhile_yields op stack) (ih hRest)
      rwa [List.takeWhile_append_dropWhile] at hSends

/-! ### What goes out -/

/-- The waiting operators that will go out. -/
def waiting (stack : List Operator) : List Token :=
  (stack.filter (· ≠ .openBracket)).map .operator

theorem waiting_append (sent stack : List Operator) :
    waiting (sent ++ stack) = waiting sent ++ waiting stack := by
  simp [waiting]

theorem waiting_eq_map {sent : List Operator} (h : .openBracket ∉ sent) :
    waiting sent = sent.map .operator := by
  have hAll : sent.filter (· ≠ .openBracket) = sent := by
    rw [List.filter_eq_self]
    intro op hOp
    simpa using ne_of_mem_of_not_mem hOp h
  rw [waiting, hAll]

namespace Sends

variable {stack : List Operator} {ts out : List Token}

/-- What goes out are the tokens without their brackets and the operators that waited. -/
theorem perm (h : Sends stack ts out) :
    out.Perm (ts.filter (!·.isBracket) ++ waiting stack) := by
  induction h with
  | flush hNot => exact .of_eq (waiting_eq_map hNot).symm
  | operand v _ ih => exact ih.cons _
  | openBracket _ ih => exact ih
  | @closeBracket sent stack ts out hSent _ ih =>
    have hWaiting :
        waiting (sent ++ .openBracket :: stack) = sent.map .operator ++ waiting stack := by
      rw [waiting_append, waiting_eq_map hSent]
      rfl
    rw [hWaiting]
    exact (ih.append_left _).trans (List.perm_append_comm_assoc ..)
  | complement _ ih => exact ih.trans List.perm_middle
  | @binary sent stack ts out op hSent _ ih =>
    have hMiddle : out.Perm (.operator (.binary op) :: ts.filter (!·.isBracket) ++ waiting stack) :=
      ih.trans List.perm_middle
    rw [waiting_append, waiting_eq_map hSent]
    exact (hMiddle.append_left _).trans (List.perm_append_comm_assoc ..)

theorem filter_isOperand_map_operator (ops : List Operator) :
    (ops.map Token.operator).filter Token.isOperand = [] := by
  simp [List.filter_eq_nil_iff, Token.isOperand]

/-- The operands keep their order. -/
theorem filter_isOperand (h : Sends stack ts out) :
    out.filter Token.isOperand = ts.filter Token.isOperand := by
  induction h with
  | flush => exact filter_isOperand_map_operator _
  | operand v _ ih => exact congrArg (Token.operand v :: ·) ih
  | openBracket _ ih => exact ih
  | closeBracket _ _ ih =>
    rw [List.filter_append, filter_isOperand_map_operator, ih]
    rfl
  | complement _ ih => exact ih
  | binary op _ _ ih =>
    rw [List.filter_append, filter_isOperand_map_operator, ih]
    rfl

end Sends

/-! ### Infix texts -/

theorem ofInfix_eq_error_iff {t : Text} {ts : List Token} (hText : Token.ofText t = .ok ts)
    (hNe : ts ≠ []) {d : Defect} :
    ofInfix t = .error (.malformed d) ↔ bracketDefect 0 ts = some d := by
  rw [ofInfix_eq hText hNe, map_eq_error_iff, convert_eq_error_iff]
  simp [eq_comm]

theorem exists_ofInfix_eq_ok_iff {t : Text} {ts : List Token} (hText : Token.ofText t = .ok ts)
    (hNe : ts ≠ []) : (∃ p, ofInfix t = .ok p) ↔ bracketDefect 0 ts = none := by
  rw [Option.eq_none_iff_forall_ne_some]
  constructor
  · rintro ⟨p, hp⟩ d hd
    rw [(ofInfix_eq_error_iff hText hNe).2 hd] at hp
    cases hp
  · intro hNone
    cases hp : ofInfix t with
    | ok p => exact ⟨p, rfl⟩
    | error fault =>
      rw [ofInfix_eq hText hNe, map_eq_error_iff, convert_eq_error_iff] at hp
      obtain ⟨d, hd, -⟩ := hp
      exact absurd hd (hNone d)

/-- The conversion of a token list fails exactly when its brackets are not balanced, and for two
reasons: some bracket closes nothing, or else some bracket is left open. Otherwise it only drops the
brackets and moves the operators. -/
theorem ofInfix_faults_and_rearrangement {t : Text} {ts : List Token}
    (hText : Token.ofText t = .ok ts) (hNe : ts ≠ []) :
    (ofInfix t = .error (.malformed .unmatchedClose) ↔ ∃ done, done <+: ts ∧
      done.count (.operator .openBracket) < done.count (.operator .closeBracket)) ∧
    (ofInfix t = .error (.malformed .unmatchedOpen) ↔
      (∀ done, done <+: ts →
        done.count (.operator .closeBracket) ≤ done.count (.operator .openBracket)) ∧
      ts.count (.operator .closeBracket) < ts.count (.operator .openBracket)) ∧
    ((∃ p, ofInfix t = .ok p) ↔
      (∀ done, done <+: ts →
        done.count (.operator .closeBracket) ≤ done.count (.operator .openBracket)) ∧
      ts.count (.operator .closeBracket) = ts.count (.operator .openBracket)) ∧
    (∀ p, ofInfix t = .ok p → (∀ token ∈ p.tokens, token.isBracket = false) ∧
      p.tokens.Perm (ts.filter (!·.isBracket)) ∧
      p.tokens.filter Token.isOperand = ts.filter Token.isOperand) ∧
    Defect.unmatchedClose.message = "unmatched ')'".toList ∧
    Defect.unmatchedOpen.message = "unmatched '('".toList := by
  have hSome : Overcloses 0 ts ↔ ∃ done, done <+: ts ∧
      done.count (.operator .openBracket) < done.count (.operator .closeBracket) := by
    simp [Overcloses]
  have hNone : ¬ Overcloses 0 ts ↔ ∀ done, done <+: ts →
      done.count (.operator .closeBracket) ≤ done.count (.operator .openBracket) := by
    simp [Overcloses]
  rw [ofInfix_eq_error_iff hText hNe, ofInfix_eq_error_iff hText hNe,
    exists_ofInfix_eq_ok_iff hText hNe, ← hSome, ← hNone]
  have hFaults : (bracketDefect 0 ts = some .unmatchedClose ↔ Overcloses 0 ts) ∧
      (bracketDefect 0 ts = some .unmatchedOpen ↔ ¬ Overcloses 0 ts ∧
        ts.count (.operator .closeBracket) < ts.count (.operator .openBracket)) ∧
      (bracketDefect 0 ts = none ↔ ¬ Overcloses 0 ts ∧
        ts.count (.operator .closeBracket) = ts.count (.operator .openBracket)) := by
    rcases bracketDefect_cases 0 ts with ⟨h, hOver⟩ | ⟨h, hOver, hLess⟩ | ⟨h, hOver, hEq⟩
    · simp [h, hOver]
    · rw [zero_add] at hLess
      simp [h, hOver, hLess, hLess.ne]
    · rw [zero_add] at hEq
      simp [h, hOver, hEq]
  obtain ⟨hClose, hOpen, hOk⟩ := hFaults
  refine ⟨hClose, hOpen, hOk, fun p hp => ?_, rfl, rfl⟩
  · rw [ofInfix_eq hText hNe, map_eq_ok_iff] at hp
    obtain ⟨out, hConvert, rfl⟩ := hp
    have hSends := sends_of_convert hConvert
    have hPerm : out.Perm (ts.filter (!·.isBracket)) := by
      simpa [waiting] using hSends.perm
    refine ⟨fun token hToken => ?_, hPerm, hSends.filter_isOperand⟩
    simpa using List.of_mem_filter (hPerm.mem_iff.1 hToken)

/-- A complement in front of a bracket that ends behind an operator. -/
def misplaced : List Token :=
  [.operator .complement, .operator .openBracket, .operand 3, .operator (.binary .sub),
    .operator .closeBracket, .operand 7]

/-- The list is no expression, but its brackets are balanced, so they are dropped and the operators
moved all the same. -/
theorem ofInfix_of_misplaced :
    Token.ofText "~(3-)7".toList = .ok misplaced ∧ misplaced ≠ [] ∧
      ∃ p, ofInfix "~(3-)7".toList = .ok p ∧
        p.tokens.Perm [.operator .complement, .operand 3, .operator (.binary .sub), .operand 7] ∧
        p.tokens.filter Token.isOperand = [.operand 3, .operand 7] := by
  have hText : Token.ofText "~(3-)7".toList = .ok misplaced := by cbv
  have hNe : misplaced ≠ [] := List.cons_ne_nil _ _
  obtain ⟨-, -, hOk, hSends, -⟩ := ofInfix_faults_and_rearrangement hText hNe
  have hBalanced : ∀ done ∈ misplaced.inits,
      done.count (.operator .closeBracket) ≤ done.count (.operator .openBracket) := by decide
  obtain ⟨p, hp⟩ := hOk.2 ⟨fun done h => hBalanced done ((List.mem_inits _ _).2 h), rfl⟩
  obtain ⟨-, hPerm, hOperands⟩ := hSends p hp
  exact ⟨hText, hNe, p, hp, hPerm, hOperands⟩

end Prose.Expr.Postfix
