import Prose.Proofs.Expr.Grammar
import Prose.Proofs.Result

/-!
# Brackets in the conversion

The open brackets among the waiting operators are those of the tokens read so far that have not been
closed yet: operators that are sent out leave them as they are, and a closing bracket takes the
nearest one. So the conversion fails on brackets only (`convert_eq_error_iff`), and counting tells
how: more have been closed than opened somewhere, or more opened than closed in the end
(`bracketDefect_cases`).
-/

namespace Prose.Expr.Postfix

theorem popToOpen_eq_none {stack : List Operator} (h : popToOpen stack = none) :
    .openBracket ∉ stack := by
  induction stack with
  | nil => simp
  | cons op stack ih =>
    by_cases hOp : op = .openBracket
    · subst hOp
      cases h
    · simp only [popToOpen, Option.map_eq_none_iff] at h
      simpa [Ne.symm hOp] using ih h

theorem eq_append_of_popToOpen {stack popped rest : List Operator}
    (h : popToOpen stack = some (popped, rest)) :
    stack = popped ++ .openBracket :: rest ∧ .openBracket ∉ popped := by
  induction stack generalizing popped with
  | nil => cases h
  | cons op stack ih =>
    by_cases hOp : op = .openBracket
    · subst hOp
      simp only [popToOpen, Option.some.injEq, Prod.mk.injEq] at h
      obtain ⟨rfl, rfl⟩ := h
      simp
    · simp only [popToOpen, Option.map_eq_some_iff, Prod.mk.injEq, Prod.exists] at h
      obtain ⟨popped, rest, h, rfl, rfl⟩ := h
      obtain ⟨hStack, hPopped⟩ := ih h
      simp [← hStack, hPopped, Ne.symm hOp]

theorem count_of_popToOpen {stack popped rest : List Operator}
    (h : popToOpen stack = some (popped, rest)) :
    stack.count .openBracket = rest.count .openBracket + 1 := by
  obtain ⟨rfl, hPopped⟩ := eq_append_of_popToOpen h
  rw [List.count_append, List.count_eq_zero_of_not_mem hPopped, List.count_cons_self]
  omega

theorem not_mem_takeWhile_yields (op : BinaryOp) (stack : List Operator) :
    .openBracket ∉ stack.takeWhile (yields op) := by
  intro hMem
  have := List.mem_takeWhile_imp hMem
  simp [yields] at this

/-- Operators that a binary operator sends out leave the open brackets. -/
theorem count_dropWhile_yields (op : BinaryOp) (stack : List Operator) :
    (stack.dropWhile (yields op)).count .openBracket = stack.count .openBracket := by
  have hSent := List.count_eq_zero_of_not_mem (not_mem_takeWhile_yields op stack)
  have hAll := congrArg (List.count .openBracket) (List.takeWhile_append_dropWhile
    (p := yields op) (l := stack))
  rw [List.count_append, hSent] at hAll
  omega

/-! ### Faults of the conversion -/

/-- What is wrong with the brackets of a token list behind `depth` open ones: a closing bracket that
has none to close, or else an open one that nothing closes. -/
@[simp] def bracketDefect (depth : Nat) : List Token → Option Defect
  | [] => if depth = 0 then none else some .unmatchedOpen
  | .operator .openBracket :: ts => bracketDefect (depth + 1) ts
  | .operator .closeBracket :: ts =>
    if depth = 0 then some .unmatchedClose else bracketDefect (depth - 1) ts
  | _ :: ts => bracketDefect depth ts

theorem flush_eq_error_iff {stack : List Operator} {fault : Error} :
    flush stack = .error fault ↔
      stack.count .openBracket ≠ 0 ∧ fault = .malformed .unmatchedOpen := by
  induction stack with
  | nil => simp [flush]
  | cons op stack ih =>
    by_cases hOp : op = .openBracket
    · subst hOp
      simp [flush, eq_comm]
    · rw [List.count_cons_of_ne hOp, ← ih, flush, bind_pure_comp, map_eq_error_iff]
      exact hOp

/-- The conversion fails on brackets only, at the first that closes nothing or else in the end. -/
theorem convert_eq_error_iff {stack : List Operator} {ts : List Token} {fault : Error} :
    convert stack ts = .error fault ↔
      ∃ d, bracketDefect (stack.count .openBracket) ts = some d ∧ fault = .malformed d := by
  induction ts generalizing stack with
  | nil =>
    rw [convert, flush_eq_error_iff]
    simp [ite_eq_iff]
  | cons t ts ih =>
    cases t with
    | operand v =>
      rw [convert, bind_pure_comp, map_eq_error_iff, ih]
      rfl
    | operator op =>
      cases op with
      | openBracket => rw [convert, ih, List.count_cons_self, bracketDefect]
      | closeBracket =>
        rw [convert, bracketDefect]
        cases hPop : popToOpen stack with
        | none =>
          rw [List.count_eq_zero_of_not_mem (popToOpen_eq_none hPop)]
          simp [eq_comm]
        | some parts =>
          obtain ⟨popped, rest⟩ := parts
          simp [count_of_popToOpen hPop, map_eq_error_iff, ih]
      | complement =>
        rw [convert, ih, List.count_cons_of_ne (by decide)]
        rfl
      | binary op =>
        have hOp : Operator.binary op ≠ .openBracket := by simp
        rw [convert, bind_pure_comp, map_eq_error_iff, ih, List.count_cons_of_ne hOp,
          count_dropWhile_yields]
        rfl

theorem closes_iff_bracketDefect {depth : Nat} {ts : List Token} :
    closes depth ts ↔ bracketDefect depth ts = none := by
  induction ts generalizing depth with
  | nil => simp
  | cons t ts ih =>
    match t with
    | .operand v => exact ih
    | .operator .openBracket => exact ih
    | .operator .closeBracket => cases depth <;> simp [ih]
    | .operator .complement => exact ih
    | .operator (.binary op) => exact ih

/-- The tokens of a conversion have their brackets closed, the waiting ones included. -/
theorem closes_of_convert {stack : List Operator} {ts out : List Token}
    (h : convert stack ts = .ok out) : closes (stack.count .openBracket) ts := by
  rw [closes_iff_bracketDefect, Option.eq_none_iff_forall_ne_some]
  intro d hd
  rw [convert_eq_error_iff.2 ⟨d, hd, rfl⟩] at h
  cases h

/-! ### Counting brackets -/

/-- Somewhere in `ts` more brackets have been closed than opened, `depth` open ones before them
included. -/
def Overcloses (depth : Nat) (ts : List Token) : Prop :=
  ∃ done, done <+: ts ∧
    depth + done.count (.operator .openBracket) < done.count (.operator .closeBracket)

theorem not_overcloses_nil (depth : Nat) : ¬ Overcloses depth [] := by
  rintro ⟨done, hDone, hCount⟩
  obtain rfl := List.prefix_nil.1 hDone
  simp at hCount

theorem overcloses_cons {depth : Nat} {t : Token} {ts : List Token} :
    Overcloses depth (t :: ts) ↔ ∃ done, done <+: ts ∧
      depth + (t :: done).count (.operator .openBracket) <
        (t :: done).count (.operator .closeBracket) := by
  constructor
  · rintro ⟨done, hDone, hCount⟩
    rcases List.prefix_cons_iff.1 hDone with rfl | ⟨done, rfl, hRest⟩
    · simp at hCount
    · exact ⟨done, hRest, hCount⟩
  · rintro ⟨done, hDone, hCount⟩
    exact ⟨t :: done, List.cons_prefix_cons.2 ⟨rfl, hDone⟩, hCount⟩

/-- The defect of the brackets is found by counting. -/
theorem bracketDefect_cases (depth : Nat) (ts : List Token) :
    (bracketDefect depth ts = some .unmatchedClose ∧ Overcloses depth ts) ∨
      (bracketDefect depth ts = some .unmatchedOpen ∧ ¬ Overcloses depth ts ∧
        ts.count (.operator .closeBracket) < depth + ts.count (.operator .openBracket)) ∨
      (bracketDefect depth ts = none ∧ ¬ Overcloses depth ts ∧
        ts.count (.operator .closeBracket) = depth + ts.count (.operator .openBracket)) := by
  induction ts generalizing depth with
  | nil =>
    have hNot := not_overcloses_nil depth
    cases depth <;> simp [hNot]
  | cons t ts ih =>
    rw [overcloses_cons]
    match t with
    | .operator .closeBracket =>
      cases depth with
      | zero => exact .inl ⟨rfl, [], List.nil_prefix, by simp⟩
      | succ depth =>
        simpa [Overcloses, add_right_comm _ 1] using ih depth
    | .operator .openBracket => simpa [Overcloses, add_assoc, add_comm 1] using ih (depth + 1)
    | .operand v => simpa [Overcloses] using ih depth
    | .operator .complement => simpa [Overcloses] using ih depth
    | .operator (.binary op) => simpa [Overcloses] using ih depth

end Prose.Expr.Postfix
