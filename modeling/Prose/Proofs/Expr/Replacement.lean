import Prose.Proofs.Expr.Occurrence

/-!
# What substitution leaves as it is

A text falls into the fragments that are replaced and the parts before, between and behind them, and
these parts are copied. The fragments are the expressions that occur in the text
(`exists_replacements`), so what is known of an occurrence holds of each: it has a value, and no
word and no operator touches it (`Occurs.isApart`).
-/

namespace Prose.Expr.Embedded

/-- A fragment, the value that takes its place, and the text up to the next fragment. -/
structure Replacement where
  fragment : Text
  value : Int32
  following : Text

/-- The text with the fragments in their places. -/
def original (first : Text) (rs : List Replacement) : Text :=
  first ++ rs.flatMap fun r => r.fragment ++ r.following

/-- The text with the numerals of the values in the places of the fragments. -/
def rewritten (first : Text) (rs : List Replacement) : Text :=
  first ++ rs.flatMap fun r => Decimal.ofInt r.value.toInt ++ r.following

/-- A fragment of expression characters with an operator among them, and its value. -/
structure Replacement.IsExpression (r : Replacement) : Prop where
  ne_nil : r.fragment ≠ []
  chars : ∀ c ∈ r.fragment, isExprChar c
  hasOperator : r.fragment.any isOperatorChar
  value : evalInfix r.fragment = .ok r.value

/-- A character that is part of no word and of no operator. -/
def isApart (c : Char) : Bool :=
  !isWordChar c && !isOperatorChar c

theorem forall_isApart_iff {o : Option Char} :
    (∀ c ∈ o, isApart c) ↔ o.any isWordChar = false ∧ o.any isOperatorChar = false := by
  cases o <;> simp [isApart]

section

variable {first s d f : Text} {q : Replacement} {rs rs' : List Replacement} {v : Int32}

theorem original_nil : original first [] = first :=
  List.append_nil first

theorem original_append : original (s ++ first) rs = s ++ original first rs :=
  List.append_assoc ..

theorem rewritten_append : rewritten (s ++ first) rs = s ++ rewritten first rs :=
  List.append_assoc ..

theorem original_cons :
    original first (q :: rs) = first ++ q.fragment ++ original q.following rs := by
  simp [original]

theorem rewritten_cons : rewritten first (q :: rs) =
    first ++ Decimal.ofInt q.value.toInt ++ rewritten q.following rs := by
  simp [rewritten]

theorem original_append_cons : original first (rs ++ q :: rs') =
    original first rs ++ q.fragment ++ original q.following rs' := by
  simp [original]

/-- The fragment `f` with the value `v` is listed, and behind `d` it stands in the text. -/
def Listed (first : Text) (rs : List Replacement) (d f : Text) (v : Int32) : Prop :=
  ∃ done q rest, rs = done ++ q :: rest ∧ original first done = d ∧ q.fragment = f ∧ q.value = v

theorem not_listed_nil : ¬ Listed first [] d f v := by
  rintro ⟨done, q, rest, hrs, -⟩
  exact List.append_ne_nil_of_right_ne_nil done (List.cons_ne_nil q rest) hrs.symm

theorem listed_append_iff :
    Listed (s ++ first) rs d f v ↔ ∃ d', d = s ++ d' ∧ Listed first rs d' f v := by
  constructor
  · rintro ⟨done, q, rest, hrs, rfl, rfl, rfl⟩
    exact ⟨original first done, original_append, done, q, rest, hrs, rfl, rfl, rfl⟩
  · rintro ⟨d', rfl, done, q, rest, hrs, rfl, rfl, rfl⟩
    exact ⟨done, q, rest, hrs, original_append, rfl, rfl⟩

theorem listed_cons_iff : Listed first (q :: rs) d f v ↔
    (d = first ∧ f = q.fragment ∧ v = q.value) ∨
      ∃ d', d = first ++ q.fragment ++ d' ∧ Listed q.following rs d' f v := by
  constructor
  · rintro ⟨done, q', rest, hrs, rfl, rfl, rfl⟩
    cases done with
    | nil =>
      obtain ⟨rfl, rfl⟩ := List.cons.inj hrs
      exact .inl ⟨original_nil, rfl, rfl⟩
    | cons q'' done =>
      obtain ⟨rfl, hRest⟩ := List.cons.inj hrs
      exact .inr ⟨original q.following done, original_cons, done, q', rest, hRest, rfl, rfl, rfl⟩
  · rintro (⟨rfl, rfl, rfl⟩ | ⟨d', rfl, done, q', rest, rfl, rfl, rfl, rfl⟩)
    · exact ⟨[], q, rs, rfl, original_nil, rfl, rfl⟩
    · exact ⟨q :: done, q', rest, rfl, original_cons, rfl, rfl⟩

end

/-! ### One occurrence -/

section

variable {before after : Option Char} {run t d f : Text} {v w : Int32}

/-- In front of the fragment stands a surplus bracket or what stands in front of the candidate. -/
theorem Replaces.isApart_before (h : Replaces before run after v) :
    ∀ c ∈ ((candidate run).left ++ (fragment run).left).getLast?.or before, isApart c := by
  rw [forall_isApart_iff, List.getLast?_append, Option.or_assoc]
  refine ⟨h.noWordBefore, ?_⟩
  obtain ⟨j, k, -, hLeft, -⟩ := exists_surplus run
  cases j with
  | zero =>
    rw [hLeft]
    exact h.noOperatorBefore
  | succ j =>
    rw [hLeft, List.replicate_succ', List.getLast?_concat]
    rfl

theorem Replaces.isApart_after (h : Replaces before run after v) :
    ∀ c ∈ ((fragment run).right ++ (candidate run).right).head?.or after, isApart c := by
  rw [forall_isApart_iff, List.head?_append, Option.or_assoc]
  refine ⟨h.noWordAfter, ?_⟩
  obtain ⟨j, k, -, -, hRight⟩ := exists_surplus run
  cases k with
  | zero =>
    rw [hRight]
    exact h.noOperatorAfter
  | succ k =>
    rw [hRight]
    rfl

theorem Replaces.value_unique (h : Replaces before run after v) (g : Replaces before run after w) :
    v = w :=
  Except.ok.inj (h.value.symm.trans g.value)

theorem Occurs.isExpression (h : Occurs before t d f v) (following : Text) :
    Replacement.IsExpression ⟨f, v, following⟩ := by
  obtain ⟨l, run, r, -, hRun, hReplaces, -, rfl⟩ := h
  refine ⟨?_, fun c hc => hRun.chars c ?_, hReplaces.hasOperator, hReplaces.value⟩
  · rintro (hNil : (fragment run).middle = [])
    have hOperator := hReplaces.hasOperator
    rw [hNil] at hOperator
    cases hOperator
  · rw [← around_fragment run]
    simp [around, show c ∈ (fragment run).middle from hc]

/-- No word and no operator touches an expression that occurs. -/
theorem Occurs.isApart (h : Occurs before t d f v) {u : Text} (hText : t = d ++ f ++ u) :
    (∀ c ∈ d.getLast?.or before, isApart c) ∧ ∀ c ∈ u.head?, isApart c := by
  obtain ⟨l, run, r, hRunText, -, hReplaces, rfl, rfl⟩ := h
  have hWhole : l ++ (candidate run).left ++ (fragment run).left ++ (fragment run).middle ++
      ((fragment run).right ++ (candidate run).right ++ r) = l ++ run ++ r := by
    conv_rhs => rw [← around_fragment run]
    simp only [around, List.append_assoc]
  obtain rfl := List.append_cancel_left (hWhole.trans (hRunText.symm.trans hText))
  constructor
  · rw [List.append_assoc, List.getLast?_append, Option.or_assoc]
    exact hReplaces.isApart_before
  · rw [List.head?_append]
    exact hReplaces.isApart_after

end

/-! ### Whole texts -/

/-- The fragments that are replaced are the expressions that occur. -/
theorem exists_listed_iff_occurs (before : Option Char) (t : Text) : ∃ first rs,
    t = original first rs ∧ rewrite before t = rewritten first rs ∧
      ∀ d f v, Listed first rs d f v ↔ Occurs before t d f v := by
  fun_induction rewrite before t with
  | case1 before =>
    exact ⟨[], [], rfl, rfl, fun d f v => iff_of_false not_listed_nil not_occurs_nil⟩
  | case2 before c rest hc run tail ih =>
    obtain ⟨first, rs, hTail, hRewrite, hListed⟩ := ih
    have hText : c :: rest = run ++ tail := by
      rw [List.cons_append, List.takeWhile_append_dropWhile]
    have hRun : IsRun [] run tail := isRun_takeWhile hc rest
    rw [hText]
    by_cases hReplaced : ∃ v, Replaces before run tail.head? v
    · obtain ⟨v, hReplaces⟩ := hReplaced
      have hWhole := around_fragment run
      rw [around, List.append_assoc] at hWhole
      refine ⟨(candidate run).left ++ (fragment run).left,
        ⟨(fragment run).middle, v, (fragment run).right ++ (candidate run).right ++ first⟩ :: rs,
        ?_, ?_, fun d f w => ?_⟩
      · rw [original_cons, original_append, ← hTail, ← List.append_assoc, hWhole]
      · rw [rewritten_cons, rewritten_append, hReplaces.rewriteRun_eq, hRewrite, around]
        simp only [List.append_assoc]
      · rw [listed_cons_iff, occurs_append_iff hRun run.getLast?]
        refine or_congr ⟨?_, ?_⟩ ⟨?_, ?_⟩
        · rintro ⟨rfl, rfl, rfl⟩
          exact ⟨hReplaces, rfl, rfl⟩
        · rintro ⟨hOther, rfl, rfl⟩
          exact ⟨rfl, rfl, hOther.value_unique hReplaces⟩
        · rintro ⟨u, rfl, hBehind⟩
          obtain ⟨d', rfl, hRest⟩ := listed_append_iff.1 hBehind
          exact ⟨d', by rw [← List.append_assoc, hWhole], (hListed d' f w).1 hRest⟩
        · rintro ⟨d', rfl, hRest⟩
          exact ⟨_, by rw [← List.append_assoc, hWhole],
            listed_append_iff.2 ⟨d', rfl, (hListed d' f w).2 hRest⟩⟩
    · have hSelf : rewriteRun before run tail.head? = run := by
        refine (rewriteRun_eq_self_or before run tail.head?).resolve_right ?_
        rintro ⟨v, hReplaces, -⟩
        exact hReplaced ⟨v, hReplaces⟩
      refine ⟨run ++ first, rs, ?_, ?_, fun d f v => ?_⟩
      · rw [original_append, ← hTail]
      · rw [rewritten_append, hSelf, hRewrite]
      · rw [listed_append_iff, occurs_append_iff hRun run.getLast?,
          or_iff_right fun h => hReplaced ⟨v, h.1⟩]
        simp only [hListed]
  | case3 before c rest hc ih =>
    obtain ⟨first, rs, hRest, hRewrite, hListed⟩ := ih
    refine ⟨c :: first, rs, ?_, ?_, fun d f v => ?_⟩
    · rw [hRest]
      rfl
    · rw [hRewrite]
      rfl
    · rw [occurs_cons_iff (by simpa using hc), ← List.singleton_append, listed_append_iff]
      simp only [hListed, List.singleton_append]

/-- A text falls into fragments, each an expression that neither a word nor an operator touches, and
the parts around them. Substitution puts the values in the places of the fragments and copies the
parts. The fragments are the expressions that occur in the text, so a part holds none. -/
theorem exists_replacements (t : Text) : ∃ first rs,
    t = original first rs ∧ substitute t = rewritten first rs ∧
      (∀ q ∈ rs, q.IsExpression) ∧
      (∀ done q rest, rs = done ++ q :: rest →
        t = original first done ++ q.fragment ++ original q.following rest ∧
          (∀ c ∈ (original first done).getLast?, isApart c) ∧
          ∀ c ∈ (original q.following rest).head?, isApart c) ∧
      ∀ d f v, Listed first rs d f v ↔ Occurs none t d f v := by
  obtain ⟨first, rs, hText, hRewrite, hListed⟩ := exists_listed_iff_occurs none t
  have hOccurs {done : List Replacement} {q : Replacement} {rest : List Replacement}
      (hrs : rs = done ++ q :: rest) : Occurs none t (original first done) q.fragment q.value :=
    (hListed _ _ _).1 ⟨done, q, rest, hrs, rfl, rfl, rfl⟩
  refine ⟨first, rs, hText, hRewrite, fun q hq => ?_, fun done q rest hrs => ?_, hListed⟩
  · obtain ⟨done, rest, hrs⟩ := List.append_of_mem hq
    exact (hOccurs hrs).isExpression q.following
  · have hSplit : t = original first done ++ q.fragment ++ original q.following rest := by
      rw [hText, hrs, original_append_cons]
    have hApart := (hOccurs hrs).isApart hSplit
    rw [Option.or_none] at hApart
    exact ⟨hSplit, hApart⟩

end Prose.Expr.Embedded
