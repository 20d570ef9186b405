import Prose.Proofs.Expr.Tree

/-!
# The grammar of infix expressions

`Derives ts` is the grammar of infix expressions without any regard to rates. It has the spellings
of trees and no other token lists (`derives_iff_exists_spells`): a derivation can be regrouped by
the rates, since an operand, an operator and a spelling in a row are a spelling again
(`Spells.insert_left`).

The grammar can also be told by two scans from left to right (`derives_iff_alternates_and_closes`).
`alternates` looks at neighbours only: an operand starts exactly where one is wanted. `closes`
counts open brackets. The first is what the conversion to postfix order never asks.
-/

namespace Prose.Expr

/-- The grammar of infix expressions: an operand, a complement, an expression in brackets, or two
expressions with a binary operator between them. -/
inductive Derives : List Token → Prop
  | literal (v : Int32) : Derives [.operand v]
  | complement {ts : List Token} : Derives ts → Derives (.operator .complement :: ts)
  | bracket {ts : List Token} : Derives ts →
      Derives (.operator .openBracket :: (ts ++ [.operator .closeBracket]))
  | binary {ts us : List Token} (op : BinaryOp) : Derives ts → Derives us →
      Derives (ts ++ .operator (.binary op) :: us)

theorem Spells.derives {e : Tree} {rate : Nat} {ts : List Token} (h : Spells e rate ts) :
    Derives ts := by
  induction h with
  | literal v => exact .literal v
  | bracket _ ih => exact .bracket ih
  | complement _ _ ih => exact .complement ih
  | binary _ _ _ _ ihLeft ihRight => exact .binary _ ihLeft ihRight

/-! ### Regrouping by rates -/

/-- A complement in front of a spelling takes its first operand. -/
theorem Spells.complement_left {e : Tree} {rate : Nat} {ts : List Token} (h : Spells e rate ts) :
    ∃ e', Spells e' (min Operator.complement.rate rate) (.operator .complement :: ts) := by
  induction h with
  | literal v => exact ⟨_, .complement (.literal v) (by decide)⟩
  | bracket h _ => exact ⟨_, .complement (.bracket h) (by decide)⟩
  | complement h hRate _ => exact ⟨_, .complement (.complement h hRate) (by decide)⟩
  | @binary op l r p q ts us hLeft hRight hp hq ih =>
    obtain ⟨l', hl'⟩ := ih
    have hOp := op.rate_lt_complement
    rw [Nat.min_eq_right hOp.le]
    exact ⟨.binary op l' r, .binary hl' hRight (by omega) hq⟩

/-- An operand that needs no brackets, an operator and a spelling in a row. The operator goes down
the left side of the spelling, past all operators of its own and of lower rates. -/
theorem Spells.insert_left {u e : Tree} {p rate : Nat} {us ts : List Token} (op : BinaryOp)
    (hu : Spells u p us) (hp : Operator.complement.rate ≤ p) (h : Spells e rate ts) :
    ∃ e', Spells e' (min op.rate rate) (us ++ .operator (.binary op) :: ts) := by
  have hOp := op.rate_lt_complement
  -- outside brackets `ts` holds only operators that bind tighter
  have hAbove {e : Tree} {rate : Nat} {ts : List Token} (h : Spells e rate ts)
      (hRate : op.rate < rate) :
      ∃ e', Spells e' (min op.rate rate) (us ++ .operator (.binary op) :: ts) := by
    rw [Nat.min_eq_left hRate.le]
    exact ⟨.binary op u e, .binary hu h (by omega) hRate⟩
  induction h with
  | literal v => exact hAbove (.literal v) (hOp.trans (by decide))
  | bracket h _ => exact hAbove (.bracket h) (hOp.trans (by decide))
  | complement h hRate _ => exact hAbove (.complement h hRate) hOp
  | @binary op' l r q q' ts ts' hLeft hRight hq hq' ihLeft _ =>
    by_cases hRate : op.rate < op'.rate
    · exact hAbove (.binary hLeft hRight hq hq') hRate
    · obtain ⟨l', hl'⟩ := ihLeft
      rw [Nat.min_eq_right (by omega)]
      refine ⟨.binary op' l' r, ?_⟩
      rw [← List.cons_append, ← List.append_assoc]
      exact .binary hl' hRight (by omega) hq'

/-- Regrouping a derivation, also with more to come behind an operator. -/
theorem Derives.exists_spells_and_append {ts : List Token} (h : Derives ts) :
    (∃ e rate, Spells e rate ts) ∧
      ∀ (op : BinaryOp) {e : Tree} {rate : Nat} {us : List Token}, Spells e rate us →
        ∃ e' rate', Spells e' rate' (ts ++ .operator (.binary op) :: us) := by
  induction h with
  | literal v =>
    refine ⟨⟨_, _, .literal v⟩, fun op e rate us h => ?_⟩
    obtain ⟨e', h'⟩ := Spells.insert_left op (.literal v) (by decide) h
    exact ⟨e', _, h'⟩
  | complement _ ih =>
    obtain ⟨⟨e, rate, hs⟩, ih⟩ := ih
    refine ⟨?_, fun op e rate us h => ?_⟩
    · obtain ⟨e', h'⟩ := hs.complement_left
      exact ⟨e', _, h'⟩
    · obtain ⟨e', rate', h'⟩ := ih op h
      obtain ⟨e'', h''⟩ := h'.complement_left
      exact ⟨e'', _, h''⟩
  | bracket _ ih =>
    obtain ⟨⟨e, rate, hs⟩, -⟩ := ih
    refine ⟨⟨e, _, .bracket hs⟩, fun op e rate us h => ?_⟩
    obtain ⟨e', h'⟩ := Spells.insert_left op (.bracket hs) (by decide) h
    exact ⟨e', _, h'⟩
  | binary op' _ _ ihLeft ihRight =>
    obtain ⟨⟨r, q, hRight⟩, ihRight⟩ := ihRight
    refine ⟨ihLeft.2 op' hRight, fun op e rate us h => ?_⟩
    obtain ⟨r', q', h'⟩ := ihRight op h
    rw [List.append_assoc, List.cons_append]
    exact ihLeft.2 op' h'

/-- The grammar without rates has the spellings of trees and no other token lists. -/
theorem derives_iff_exists_spells {ts : List Token} :
    Derives ts ↔ ∃ e rate, Spells e rate ts :=
  ⟨fun h => h.exists_spells_and_append.1, fun ⟨_, _, h⟩ => h.derives⟩

/-! ### Scanning -/

/-- Can an operand start with the token? -/
@[simp] def Token.startsOperand : Token → Bool
  | .operand _ => true
  | .operator .complement => true
  | .operator .openBracket => true
  | .operator .closeBracket => false
  | .operator (.binary _) => false

/-- Can an operand end with the token? -/
@[simp] def Token.endsOperand : Token → Bool
  | .operand _ => true
  | .operator .closeBracket => true
  | .operator .complement => false
  | .operator .openBracket => false
  | .operator (.binary _) => false

/-- Does an operand start exactly where one is wanted? At the end none is. -/
@[simp] def alternates (wanted : Bool) : List Token → Bool
  | [] => !wanted
  | t :: ts => t.startsOperand == wanted && alternates (!t.endsOperand) ts

/-- Are all brackets closed, `depth` open ones among them, and none before it is opened? -/
@[simp] def closes (depth : Nat) : List Token → Bool
  | [] => depth == 0
  | .operator .openBracket :: ts => closes (depth + 1) ts
  | .operator .closeBracket :: ts => depth != 0 && closes (depth - 1) ts
  | _ :: ts => closes depth ts

theorem Derives.alternates_append {ts : List Token} (h : Derives ts) (us : List Token) :
    alternates true (ts ++ us) = alternates false us := by
  induction h generalizing us with
  | literal v => simp
  | complement _ ih => simp [ih]
  | bracket _ ih => simp [ih]
  | binary op _ _ ihLeft ihRight =>
    simp [ihLeft, ihRight]

theorem Derives.closes_append {ts : List Token} (h : Derives ts) (depth : Nat) (us : List Token) :
    closes depth (ts ++ us) = closes depth us := by
  induction h generalizing depth us with
  | literal v => rfl
  | complement _ ih => exact ih depth us
  | bracket _ ih => simp [ih]
  | binary op _ _ ihLeft ihRight => simp [ihLeft, ihRight]

/-- `Awaits depth ts`: the tokens `ts` are the start of an expression with `depth` open brackets,
and an operand is wanted next. -/
inductive Awaits : Nat → List Token → Prop
  | start : Awaits 0 []
  | bracket {depth : Nat} {ts : List Token} : Awaits depth ts →
      Awaits (depth + 1) (ts ++ [.operator .openBracket])
  | complement {depth : Nat} {ts : List Token} : Awaits depth ts →
      Awaits depth (ts ++ [.operator .complement])
  | binary {depth : Nat} {ts us : List Token} (op : BinaryOp) : Awaits depth ts → Derives us →
      Awaits depth (ts ++ us ++ [.operator (.binary op)])

/-- Outside all brackets the wanted operand ends the expression. -/
theorem Awaits.derives_append {ts us : List Token} (h : Awaits 0 ts) (hOperand : Derives us) :
    Derives (ts ++ us) := by
  generalize hDepth : 0 = depth at h
  induction h generalizing us with
  | start => exact hOperand
  | bracket => omega
  | complement _ ih => simpa using ih (.complement hOperand) hDepth
  | binary op _ hLeft ih => simpa using ih (.binary op hLeft hOperand) hDepth

/-- Behind the wanted operand a closing bracket makes an operand one bracket further out. -/
theorem Awaits.close {depth : Nat} {ts us : List Token} (h : Awaits (depth + 1) ts)
    (hOperand : Derives us) :
    ∃ vs ws, Awaits depth vs ∧ Derives ws ∧ vs ++ ws = ts ++ us ++ [.operator .closeBracket] := by
  generalize hDepth : depth + 1 = d at h
  induction h generalizing us with
  | start => omega
  | @bracket d ts hOuter _ =>
    obtain rfl : depth = d := by omega
    exact ⟨ts, _, hOuter, .bracket hOperand, by simp⟩
  | complement _ ih => simpa using ih (.complement hOperand) hDepth
  | binary op _ hLeft ih => simpa using ih (.binary op hLeft hOperand) hDepth

/-- What both scans accept from some place on completes the expression, whether an operand is
wanted there or one has just ended. -/
theorem Awaits.derives_of_scans (ts : List Token) {depth : Nat} {done : List Token}
    (h : Awaits depth done) (hCloses : closes depth ts) :
    (alternates true ts → Derives (done ++ ts)) ∧
      ∀ last, Derives last → alternates false ts → Derives (done ++ last ++ ts) := by
  induction ts generalizing depth done with
  | nil =>
    obtain rfl : depth = 0 := by simpa using hCloses
    refine ⟨fun hAlt => by simp at hAlt, fun last hLast _ => ?_⟩
    simpa using h.derives_append hLast
  | cons t ts ih =>
    match t with
    | .operand v =>
      refine ⟨fun hAlt => ?_, fun last _ hAlt => by simp at hAlt⟩
      have hRest : alternates false ts := by simpa using hAlt
      simpa using (ih h hCloses).2 _ (.literal v) hRest
    | .operator .complement =>
      refine ⟨fun hAlt => ?_, fun last _ hAlt => by simp at hAlt⟩
      have hRest : alternates true ts := by simpa using hAlt
      simpa using (ih h.complement hCloses).1 hRest
    | .operator .openBracket =>
      refine ⟨fun hAlt => ?_, fun last _ hAlt => by simp at hAlt⟩
      have hRest : alternates true ts := by simpa using hAlt
      simpa using (ih h.bracket hCloses).1 hRest
    | .operator .closeBracket =>
      refine ⟨fun hAlt => by simp at hAlt, fun last hLast hAlt => ?_⟩
      have hRest : alternates false ts := by simpa using hAlt
      obtain ⟨d, rfl⟩ : ∃ d, depth = d + 1 := by
        cases depth with
        | zero => simp at hCloses
        | succ d => exact ⟨d, rfl⟩
      -- the operand that has just ended and its brackets are the next operand further out
      obtain ⟨vs, ws, hOuter, hOperand, hEq⟩ := h.close hLast
      have hDerives := (ih hOuter (by simpa using hCloses)).2 ws hOperand hRest
      rw [hEq] at hDerives
      simpa using hDerives
    | .operator (.binary op) =>
      refine ⟨fun hAlt => by simp at hAlt, fun last hLast hAlt => ?_⟩
      have hRest : alternates true ts := by simpa using hAlt
      simpa using (ih (h.binary op hLast) hCloses).1 hRest

/-- A token list is an infix expression exactly when it passes both scans. -/
theorem derives_iff_alternates_and_closes {ts : List Token} :
    Derives ts ↔ alternates true ts ∧ closes 0 ts := by
  constructor
  · intro h
    have hAlternates := h.alternates_append []
    have hCloses := h.closes_append 0 []
    rw [List.append_nil] at hAlternates hCloses
    exact ⟨hAlternates, hCloses⟩
  · rintro ⟨hAlternates, hCloses⟩
    exact (Awaits.start.derives_of_scans ts hCloses).1 hAlternates

end Prose.Expr
