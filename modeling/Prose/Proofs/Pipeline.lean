import Prose.Pipeline
import Prose.Proofs.Expr.Substitution
import Prose.Proofs.Parse.Document

/-!
# Values in documents

An expression between two words is replaced by its value before the text is parsed. Only a value
that is not negative comes back out of the document: the numeral of a negative one loses its minus
sign and gets its last digit twice (`create_layout_iff_nonneg`).
-/

namespace Prose

open Parse Prose.Expr Prose.Expr.Embedded

/-! ### Lines with an expression -/

section Line

variable {u w : Text}

theorem toNat_of_isAlpha {c : Char} (h : c.isAlpha) :
    65 ≤ c.toNat ∧ c.toNat ≤ 90 ∨ 97 ≤ c.toNat ∧ c.toNat ≤ 122 := by
  simp only [Char.isAlpha, Char.isUpper, Char.isLower, Bool.or_eq_true, Bool.and_eq_true,
    decide_eq_true_eq, ge_iff_le, UInt32.le_iff_toNat_le] at h
  exact h

theorem isSpace_eq_false_of_isAlpha {c : Char} (h : c.isAlpha) : isSpace c = false := by
  have hRange := toNat_of_isAlpha h
  simp only [isSpace, Bool.or_eq_false_iff, Bool.and_eq_false_iff, decide_eq_false_iff_not]
  omega

theorem isExprChar_eq_false_of_isAlpha {c : Char} (h : c.isAlpha) : isExprChar c = false := by
  by_contra hExpr
  simp only [isExprChar, isOperatorChar, Bool.not_eq_false, Bool.or_eq_true, decide_eq_true_eq,
    List.mem_cons, List.not_mem_nil, or_false] at hExpr
  rcases hExpr with ((hDigit | hOperator) | rfl) | rfl
  · have hRange := toNat_of_isAlpha h
    have hDigits := Decimal.toNat_of_isDigit hDigit
    omega
  · rcases hOperator with rfl | rfl | rfl | rfl | rfl | rfl | rfl | rfl | rfl <;> cases h
  · cases h
  · cases h

/-- Between two words the expression is all that is replaced. -/
theorem substitute_between_words {e : Tree} {rate : Nat} {ts : List Token} {x : Text}
    (hSpells : Spells e rate ts) (hOperator : e.isLiteral = false) (hWritten : Written ts x)
    (hBlank : ∀ c ∈ x, isBlank c = false) (hu : ∀ c ∈ u, c.isAlpha) (hw : ∀ c ∈ w, c.isAlpha) :
    substitute (u ++ ' ' :: (x ++ ' ' :: w)) =
      u ++ ' ' :: (Decimal.ofInt e.value.toInt ++ ' ' :: w) := by
  -- the spaces are neutral, so the three parts of the line are rewritten apart
  have hSpace : isExprChar ' ' = false := rfl
  have hBefore : substitute (u ++ [' ']) = u ++ [' '] := by
    refine substitute_eq_self ?_
    rw [List.forall_mem_append]
    exact ⟨fun c hc => isExprChar_eq_false_of_isAlpha (hu c hc), by simpa using hSpace⟩
  have hAfter : substitute (' ' :: w) = ' ' :: w := by
    refine substitute_eq_self ?_
    rw [List.forall_mem_cons]
    exact ⟨hSpace, fun c hc => isExprChar_eq_false_of_isAlpha (hw c hc)⟩
  have hMiddle : substitute x = Decimal.ofInt e.value.toInt := by
    simpa using hSpells.substitute_eq hOperator hWritten hBlank 0 0
  have hNeutral : isNeutral ' ' := rfl
  have hLast : ∀ c ∈ (u ++ [' ']).getLast?, isNeutral c := by simpa using hNeutral
  have hHead : ∀ c ∈ (' ' :: w).head?, isNeutral c := by simpa using hNeutral
  have hText : u ++ ' ' :: (x ++ ' ' :: w) = (u ++ [' ']) ++ (x ++ ' ' :: w) := by simp
  rw [hText, substitute_append_of_getLast? hLast, substitute_append_of_head? hHead, hBefore,
    hMiddle, hAfter]
  simp

theorem isPart_of_all_isAlpha {part : Text} (hNe : part ≠ []) (h : ∀ c ∈ part, c.isAlpha) :
    IsPart part :=
  isPart_of_all_isWordChar hNe fun c hc => isWordChar_of_isAlpha (h c hc)

theorem layout_lexeme_of_all_isAlpha {part : Text} (hNe : part ≠ [])
    (h : ∀ c ∈ part, c.isAlpha) : (lexeme part).layout = part :=
  layout_lexeme_of_words (words_of_all_isWordChar hNe fun c hc => isWordChar_of_isAlpha (h c hc))

theorem join_three (a b c : Text) :
    Text.join [' '] [a, b, c] = a ++ ' ' :: (b ++ ' ' :: c) := by
  simp [Text.join_cons_cons, Text.join_singleton]

end Line

namespace Pipeline

theorem joinLines_eq_self {t : Text} (h : '\n' ∉ t) : joinLines t = t := by
  fun_induction joinLines t with
  | case1 => rfl
  | case2 rest => simp at h
  | case3 rest => simp at h
  | case4 c rest _ _ ih =>
    rw [List.mem_cons, not_or] at h
    rw [ih h.2]

/-- A file of one line is its own text. -/
theorem read_eq_ok {files : Files} {path content : Text} (hFile : files path = some (.file content))
    (hFeed : '\n' ∉ content) (hNe : content ≠ []) : read files path = .ok content := by
  have hEmpty : content.isEmpty = false := by simpa using hNe
  rw [read, hFile]
  simp only [joinLines_eq_self hFeed, hEmpty]
  rfl

theorem create_eq_ok {p : Pipeline} {files : Files} {path content : Text}
    (hRead : read files path = .ok content) (hText : (p.preprocess content).all isSpace = false) :
    p.create files path = .ok (document p.delimiter (p.preprocess content)) := by
  rw [create, hRead]
  simp only [bind, Except.bind, parse, hText]
  rfl

/-- The file is parsed with the value in the place of the expression. -/
theorem create_between_words {e : Tree} {rate : Nat} {ts : List Token} {x u w : Text}
    {files : Files} {path : Text} (hSpells : Spells e rate ts) (hOperator : e.isLiteral = false)
    (hWritten : Written ts x) (hBlank : ∀ c ∈ x, isBlank c = false)
    (hu : ∀ c ∈ u, c.isAlpha) (hw : ∀ c ∈ w, c.isAlpha) (huNe : u ≠ [])
    (hFile : files path = some (.file (u ++ ' ' :: (x ++ ' ' :: w)))) :
    create ⟨paragraphBreak, true⟩ files path =
      .ok (document paragraphBreak (u ++ ' ' :: (Decimal.ofInt e.value.toInt ++ ' ' :: w))) := by
  have hFeed : '\n' ∉ u ++ ' ' :: (x ++ ' ' :: w) := by
    simp only [List.mem_append, List.mem_cons, not_or]
    refine ⟨fun hMem => ?_, by decide, fun hMem => ?_, by decide, fun hMem => ?_⟩
    · cases hu _ hMem
    · cases hBlank _ hMem
    · cases hw _ hMem
  have hText : preprocess ⟨paragraphBreak, true⟩ (u ++ ' ' :: (x ++ ' ' :: w)) =
      u ++ ' ' :: (Decimal.ofInt e.value.toInt ++ ' ' :: w) :=
    substitute_between_words hSpells hOperator hWritten hBlank hu hw
  have hVisible : (u ++ ' ' :: (Decimal.ofInt e.value.toInt ++ ' ' :: w)).all isSpace = false := by
    obtain ⟨c, u, rfl⟩ := List.exists_cons_of_ne_nil huNe
    simp [isSpace_eq_false_of_isAlpha (hu c (by simp))]
  rw [create_eq_ok (read_eq_ok hFile hFeed (by simp)) (by rw [hText, hVisible]), hText]

theorem ofSettings_standard : ofSettings Settings.standard = .ok ⟨paragraphBreak, true⟩ :=
  rfl

/-- An expression with at least one operator, between two words on the only line of a file, is laid
out as the numeral of its value exactly when the value is not negative. Otherwise the minus sign is
missing and the last digit stands there twice. -/
theorem create_layout_iff_nonneg {e : Tree} {rate : Nat} {ts : List Token} {x u w : Text}
    {files : Files} {path : Text} (hSpells : Spells e rate ts) (hOperator : e.isLiteral = false)
    (hWritten : Written ts x) (hBlank : ∀ c ∈ x, isBlank c = false)
    (huNe : u ≠ []) (hu : ∀ c ∈ u, c.isAlpha) (hwNe : w ≠ []) (hw : ∀ c ∈ w, c.isAlpha)
    (hFile : files path = some (.file (u ++ ' ' :: (x ++ ' ' :: w)))) :
    ∃ p D, ofSettings Settings.standard = .ok p ∧ p.create files path = .ok D ∧
      (D.layout = u ++ ' ' :: (Decimal.ofInt e.value.toInt ++ ' ' :: w) ↔ 0 ≤ e.value.toInt) ∧
      (e.value.toInt < 0 → ∃ ds d, Decimal.ofInt e.value.toInt = '-' :: (ds ++ [d]) ∧
        D.layout = u ++ ' ' :: (ds ++ [d, d] ++ ' ' :: w)) := by
  have hParts : ∀ part ∈ [u, Decimal.ofInt e.value.toInt, w], IsPart part := by
    intro part hPart
    simp only [List.mem_cons, List.not_mem_nil, or_false] at hPart
    rcases hPart with rfl | rfl | rfl
    · exact isPart_of_all_isAlpha huNe hu
    · exact isPart_ofInt _
    · exact isPart_of_all_isAlpha hwNe hw
  have hLayout := layout_document_join (by simp) hParts
  rw [join_three, List.map_cons, List.map_cons, List.map_singleton, join_three,
    layout_lexeme_of_all_isAlpha huNe hu, layout_lexeme_of_all_isAlpha hwNe hw] at hLayout
  have hCreate := create_between_words hSpells hOperator hWritten hBlank hu hw huNe hFile
  refine ⟨⟨paragraphBreak, true⟩, _, ofSettings_standard, hCreate, ?_, ?_⟩
  · rw [hLayout]
    constructor
    · intro hEq
      by_contra hNeg
      obtain ⟨ds, d, hNumeral, hDigits, hLexeme⟩ :=
        exists_layout_lexeme_ofInt_of_neg (Int.not_le.1 hNeg)
      rw [hLexeme, hNumeral] at hEq
      -- both sides end in the same digit, but only one starts with the minus sign
      have hSame : ds ++ [d, d] = '-' :: (ds ++ [d]) :=
        List.append_cancel_right (List.cons.inj (List.append_cancel_left hEq)).2
      have hMem : '-' ∈ ds ++ [d] := by
        have hMem : '-' ∈ ds ++ [d, d] := by simp [hSame]
        simpa using hMem
      cases hDigits '-' hMem
    · intro hNonneg
      rw [layout_lexeme_ofInt_of_nonneg hNonneg]
  · intro hNeg
    obtain ⟨ds, d, hNumeral, -, hLexeme⟩ := exists_layout_lexeme_ofInt_of_neg hNeg
    exact ⟨ds, d, hNumeral, by rw [hLayout, hLexeme]⟩

/-- A value of two digits between two words. -/
theorem create_layout_of_product :
    let e : Tree := .binary .mul (.literal 2) (.literal 21)
    let ts : List Token := [.operand 2, .operator (.binary .mul), .operand 21]
    let x : Text := ['2', '*', '2', '1']
    let files : Files := fun _ => some (.file "a 2*21 b".toList)
    Spells e 3 ts ∧ e.isLiteral = false ∧ Written ts x ∧ (∀ c ∈ x, isBlank c = false) ∧
      (['a'] : Text) ≠ [] ∧ (∀ c ∈ ['a'], c.isAlpha) ∧ (['b'] : Text) ≠ [] ∧
      (∀ c ∈ ['b'], c.isAlpha) ∧
      files "in.txt".toList = some (.file (['a'] ++ ' ' :: (x ++ ' ' :: ['b']))) ∧
      ∃ p D, ofSettings Settings.standard = .ok p ∧ p.create files "in.txt".toList = .ok D ∧
        D.layout = "a 42 b".toList := by
  intro e ts x files
  have hSpells : Spells e 3 ts := .binary (.literal 2) (.literal 21) (by decide) (by decide)
  have hWritten : Written ts x :=
    .operand ['2'] nofun (List.all_eq_true.1 rfl) (by decide) <| .operator (.binary .mul) <|
    .operand ['2', '1'] nofun (List.all_eq_true.1 rfl) (by decide) .nil
  have hBlank : ∀ c ∈ x, isBlank c = false := by simp [x, isBlank]
  have hu : ∀ c ∈ ['a'], c.isAlpha := List.all_eq_true.1 rfl
  have hw : ∀ c ∈ ['b'], c.isAlpha := List.all_eq_true.1 rfl
  have hFile : files "in.txt".toList = some (.file (['a'] ++ ' ' :: (x ++ ' ' :: ['b']))) := rfl
  refine ⟨hSpells, rfl, hWritten, hBlank, by simp, hu, by simp, hw, hFile, ?_⟩
  obtain ⟨p, D, hSettings, hCreate, hIff, -⟩ :=
    create_layout_iff_nonneg hSpells rfl hWritten hBlank (by simp) hu (by simp) hw hFile
  refine ⟨p, D, hSettings, hCreate, ?_⟩
  rw [hIff.2 (by decide)]
  decide

/-- The value of `2-7` is laid out as `55` and not as its numeral. -/
theorem create_layout_of_difference :
    let e : Tree := .binary .sub (.literal 2) (.literal 7)
    let ts : List Token := [.operand 2, .operator (.binary .sub), .operand 7]
    let files : Files := fun _ => some (.file "a 2-7 b".toList)
    Spells e 2 ts ∧ Written ts ['2', '-', '7'] ∧ Decimal.ofInt e.value.toInt = "-5".toList ∧
      ∃ p D, ofSettings Settings.standard = .ok p ∧ p.create files "in.txt".toList = .ok D ∧
        D.layout = "a 55 b".toList ∧
        D.layout ≠ ['a'] ++ ' ' :: (Decimal.ofInt e.value.toInt ++ ' ' :: ['b']) := by
  intro e ts files
  have hSpells : Spells e 2 ts := .binary (.literal 2) (.literal 7) (by decide) (by decide)
  have hWritten : Written ts ['2', '-', '7'] :=
    .operand ['2'] nofun (List.all_eq_true.1 rfl) (by decide) <| .operator (.binary .sub) <|
    .operand ['7'] nofun (List.all_eq_true.1 rfl) (by decide) .nil
  have hCreate : create ⟨paragraphBreak, true⟩ files "in.txt".toList =
      .ok (document paragraphBreak "a -5 b".toList) :=
    create_between_words (u := ['a']) (w := ['b']) hSpells rfl hWritten (by simp [isBlank])
      (List.all_eq_true.1 rfl) (List.all_eq_true.1 rfl) (by simp) rfl
  have hLayout : (document paragraphBreak "a -5 b".toList).layout = "a 55 b".toList := by cbv
  refine ⟨hSpells, hWritten, by decide, _, _, ofSettings_standard, hCreate, hLayout, ?_⟩
  rw [hLayout]
  decide

end Pipeline

end Prose
