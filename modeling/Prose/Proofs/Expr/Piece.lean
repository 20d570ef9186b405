import Prose.Proofs.Expr.Written
import Prose.Proofs.Result

/-!
# Pieces of infix texts

`Cut t ps` reads the text `t` from left to right as blanks, maximal runs of digits, doubled angle
brackets and other single characters, whether an expression can have them or not. Every text has a
cut (`exists_cut`). The tokens of the text are its pieces other than blanks, as long as each of them
is a numeral within range or an operator, and otherwise the leftmost piece that is neither decides
what the fault is (`Cut.ofText_eq`).
-/

namespace Prose.Expr

/-- A piece of an infix text. -/
inductive Piece
  | blank (c : Char)
  | digits (ds : Text)
  | mark (symbol : Text)
  deriving DecidableEq, Repr

namespace Piece

/-- The symbols that an expression can have. -/
def symbols : List Text :=
  [['+'], ['-'], ['*'], ['|'], ['^'], ['&'], ['<', '<'], ['>', '>'], ['~'], ['('], [')']]

def isBlank : Piece → Bool
  | .blank _ => true
  | _ => false

/-- What is wrong with a piece: a run of digits can be out of range, and a mark no symbol. -/
def fault? : Piece → Option Error
  | .blank _ => none
  | .digits ds =>
    if Decimal.value ds ≤ 2147483647 then none else some (.malformed (.operandOutOfRange ds))
  | .mark symbol => if symbol ∈ symbols then none else some (.unknownOperator symbol)

/-- `Reads p t`: the piece `p` is written for the token `t`. -/
inductive Reads : Piece → Token → Prop
  | digits {ds : Text} {v : Int32} : v.toInt = Decimal.value ds → Reads (.digits ds) (.operand v)
  | mark (op : Operator) : Reads (.mark op.symbol) (.operator op)

end Piece

/-- `Cut t ps`: from left to right the text `t` is the pieces `ps`. -/
inductive Cut : Text → List Piece → Prop
  | nil : Cut [] []
  | blank {c : Char} {t : Text} {ps : List Piece} : isBlank c → Cut t ps →
      Cut (c :: t) (.blank c :: ps)
  | digits {ds t : Text} {ps : List Piece} : ds ≠ [] → (∀ d ∈ ds, d.isDigit) →
      (∀ c ∈ t.head?, c.isDigit = false) → Cut t ps → Cut (ds ++ t) (.digits ds :: ps)
  | double {c : Char} {t : Text} {ps : List Piece} : c = '<' ∨ c = '>' → Cut t ps →
      Cut (c :: c :: t) (.mark [c, c] :: ps)
  | single {c : Char} {t : Text} {ps : List Piece} : isBlank c = false → c.isDigit = false →
      (c = '<' ∨ c = '>' → t.head? ≠ some c) → Cut t ps → Cut (c :: t) (.mark [c] :: ps)

/-- Every text can be cut. -/
theorem exists_cut (t : Text) : ∃ ps, Cut t ps := by
  induction hLength : t.length using Nat.strongRecOn generalizing t with
  | ind n ih =>
    subst hLength
    cases t with
    | nil => exact ⟨[], .nil⟩
    | cons c t =>
      have hRest (u : Text) (hu : u.length ≤ t.length) : ∃ ps, Cut u ps :=
        ih u.length (by rw [List.length_cons]; omega) u rfl
      by_cases hBlank : isBlank c
      · obtain ⟨ps, hps⟩ := hRest t le_rfl
        exact ⟨_, .blank hBlank hps⟩
      by_cases hDigit : c.isDigit
      · obtain ⟨ps, hps⟩ := hRest (t.dropWhile Char.isDigit) (List.dropWhile_sublist _).length_le
        have hDigits : ∀ d ∈ c :: t.takeWhile Char.isDigit, d.isDigit :=
          List.forall_mem_cons.2 ⟨hDigit, fun d => List.mem_takeWhile_imp⟩
        have hCut := Cut.digits (List.cons_ne_nil _ _) hDigits
          (fun d => of_mem_head?_dropWhile) hps
        rw [List.cons_append, List.takeWhile_append_dropWhile] at hCut
        exact ⟨_, hCut⟩
      by_cases hDouble : (c = '<' ∨ c = '>') ∧ t.head? = some c
      · obtain ⟨hShift, hHead⟩ := hDouble
        obtain ⟨u, rfl⟩ := List.head?_eq_some_iff.1 hHead
        obtain ⟨ps, hps⟩ := hRest u (by simp)
        exact ⟨_, .double hShift hps⟩
      · obtain ⟨ps, hps⟩ := hRest t le_rfl
        exact ⟨_, .single (by simpa using hBlank) (by simpa using hDigit)
          (fun hShift hHead => hDouble ⟨hShift, hHead⟩) hps⟩

namespace Operator

theorem mem_symbols_iff {s : Text} : s ∈ Piece.symbols ↔ ∃ op : Operator, op.symbol = s := by
  have hAll : Piece.symbols = all.map symbol := rfl
  rw [hAll, List.mem_map]
  exact ⟨fun ⟨op, _, h⟩ => ⟨op, h⟩, fun ⟨op, h⟩ => ⟨op, op.mem_all, h⟩⟩

theorem ofSymbol_eq_error {s : Text} (h : s ∉ Piece.symbols) :
    ofSymbol s = .error (.unknownOperator s) := by
  have hNone : ofSymbol? s = none := by
    rw [Option.eq_none_iff_forall_ne_some]
    exact fun op hOp => h (mem_symbols_iff.2 ⟨op, symbol_of_ofSymbol? hOp⟩)
  rw [ofSymbol, hNone]

end Operator

namespace Token

theorem ofText_lone {c : Char} (hShift : c = '<' ∨ c = '>') {t : Text} (ht : t.head? ≠ some c) :
    ofText (c :: t) = .error (.unknownOperator [c]) := by
  obtain ⟨hBlank, hDigit⟩ := isBlank_and_isDigit_of_shift hShift
  rw [ofText.eq_def]
  cases t with
  | nil => simp [hBlank, hDigit, hShift]
  | cons d t =>
    have hd : d ≠ c := by simpa using ht
    simp [hBlank, hDigit, hShift, hd]

/-- A numeral of more than 31 bits is a fault. -/
theorem ofText_large {ds : Text} (hNe : ds ≠ []) (hDigits : ∀ d ∈ ds, d.isDigit)
    (hValue : ¬ Decimal.value ds < 2 ^ 31) {t : Text} (ht : ∀ c ∈ t.head?, c.isDigit = false) :
    ofText (ds ++ t) = .error (.malformed (.operandOutOfRange ds)) := by
  have hLarge : ¬ Decimal.value ds < 1 <<< 31 := hValue
  rw [ofText_run_append hNe hDigits ht, literal, if_neg hLarge]
  rfl

/-- A character that is no symbol is a fault wherever no blank, digit or pair can be read. -/
theorem ofText_unknown {c : Char} (hBlank : isBlank c = false) (hDigit : c.isDigit = false)
    (hSymbol : [c] ∉ Piece.symbols) {t : Text} (ht : c = '<' ∨ c = '>' → t.head? ≠ some c) :
    ofText (c :: t) = .error (.unknownOperator [c]) := by
  by_cases hShift : c = '<' ∨ c = '>'
  · exact ofText_lone hShift (ht hShift)
  · rw [ofText_single hBlank hDigit (not_or.1 hShift), Operator.ofSymbol_eq_error hSymbol]
    rfl

end Token

/-- A text with tokens is the tokens written one after the other. -/
theorem Cut.written {t : Text} {ps : List Piece} (h : Cut t ps) {ts : List Token}
    (hText : Token.ofText t = .ok ts) : Written ts t := by
  have hSymbol {s u : Text} {us : List Token} (hs : s ∈ Piece.symbols)
      (hText : Token.ofText (s ++ u) = .ok us)
      (hRest : ∀ {vs : List Token}, Token.ofText u = .ok vs → Written vs u) :
      Written us (s ++ u) := by
    obtain ⟨op, rfl⟩ := Operator.mem_symbols_iff.1 hs
    rw [Token.ofText_symbol_append] at hText
    obtain ⟨vs, hu, rfl⟩ := map_eq_ok_iff.1 hText
    exact .operator op (hRest hu)
  induction h generalizing ts with
  | nil =>
    rw [Token.ofText] at hText
    cases hText
    exact .nil
  | blank hBlank _ ih =>
    rw [Token.ofText_blank hBlank] at hText
    exact .blank hBlank (ih hText)
  | @digits ds t ps hNe hDigits ht _ ih =>
    by_cases hValue : Decimal.value ds < 2 ^ 31
    · rw [Token.ofText_digits_append hNe hDigits hValue ht] at hText
      obtain ⟨us, hRest, rfl⟩ := map_eq_ok_iff.1 hText
      exact .operand ds hNe hDigits hValue (ih hRest)
    · rw [Token.ofText_large hNe hDigits hValue ht] at hText
      cases hText
  | @double c t ps hShift _ ih =>
    exact hSymbol (s := [c, c]) (by rcases hShift with rfl | rfl <;> decide) hText ih
  | @single c t ps hBlank hDigit hLone _ ih =>
    by_cases hKnown : [c] ∈ Piece.symbols
    · exact hSymbol hKnown hText ih
    · rw [Token.ofText_unknown hBlank hDigit hKnown hLone] at hText
      cases hText

theorem written_of_ofText {t : Text} {ts : List Token} (h : Token.ofText t = .ok ts) :
    Written ts t := by
  obtain ⟨ps, hCut⟩ := exists_cut t
  exact hCut.written h

/-! ### What the pieces say -/

/-- The leftmost fault of the pieces is the result, or else one token for every piece but the
blanks. -/
def Decides (ps : List Piece) (x : Except Error (List Token)) : Prop :=
  (∃ fault, ps.findSome? Piece.fault? = some fault ∧ x = .error fault) ∨
    (ps.findSome? Piece.fault? = none ∧
      ∃ ts, x = .ok ts ∧ List.Forall₂ Piece.Reads (ps.filter (!·.isBlank)) ts)

section

variable {p : Piece} {ps : List Piece} {x : Except Error (List Token)}

theorem decides_of_fault {fault : Error} (h : p.fault? = some fault) :
    Decides (p :: ps) (.error fault) :=
  .inl ⟨fault, by rw [List.findSome?_cons, h], rfl⟩

theorem Decides.blank (h : Decides ps x) (c : Char) : Decides (.blank c :: ps) x :=
  h

theorem Decides.cons (h : Decides ps x) {token : Token} (hFault : p.fault? = none)
    (hReads : p.Reads token) : Decides (p :: ps) ((token :: ·) <$> x) := by
  have hBlank : p.isBlank = false := by cases hReads <;> rfl
  rw [Decides, List.findSome?_cons, hFault, List.filter_cons, hBlank]
  rcases h with ⟨fault, hFirst, rfl⟩ | ⟨hNone, ts, rfl, hAll⟩
  · exact .inl ⟨fault, hFirst, rfl⟩
  · exact .inr ⟨hNone, token :: ts, rfl, .cons hReads hAll⟩

end

theorem Decides.symbol {s t : Text} {ps : List Piece} (h : Decides ps (Token.ofText t))
    (hs : s ∈ Piece.symbols) : Decides (.mark s :: ps) (Token.ofText (s ++ t)) := by
  obtain ⟨op, rfl⟩ := Operator.mem_symbols_iff.1 hs
  rw [Token.ofText_symbol_append]
  exact h.cons (if_pos hs) (.mark op)

theorem Cut.decides_ofText {t : Text} {ps : List Piece} (h : Cut t ps) :
    Decides ps (Token.ofText t) := by
  induction h with
  | nil => exact .inr ⟨rfl, [], by rw [Token.ofText], .nil⟩
  | blank hBlank _ ih =>
    rw [Token.ofText_blank hBlank]
    exact ih.blank _
  | @digits ds t ps hNe hDigits ht _ ih =>
    by_cases hValue : Decimal.value ds ≤ 2147483647
    · rw [Token.ofText_digits_append hNe hDigits (by omega) ht]
      exact ih.cons (if_pos hValue) (.digits (Int32.toInt_ofNat_of_lt (by omega)))
    · rw [Token.ofText_large hNe hDigits (by omega) ht]
      exact decides_of_fault (if_neg hValue)
  | double hShift _ ih => exact ih.symbol (by rcases hShift with rfl | rfl <;> decide)
  | @single c t ps hBlank hDigit hLone _ ih =>
    by_cases hSymbol : [c] ∈ Piece.symbols
    · exact ih.symbol hSymbol
    · rw [Token.ofText_unknown hBlank hDigit hSymbol hLone]
      exact decides_of_fault (if_neg hSymbol)

/-- Every text can be cut into blanks, maximal runs of digits, pairs of angle brackets and single
characters. It has tokens exactly when no piece is faulty, and they are its pieces without the
blanks; otherwise its fault is that of the leftmost faulty piece. -/
theorem Token.ofText_iff_pieces_and_leftmost_fault (t : Text) :
    (∃ ps, Cut t ps) ∧
    (∀ ps, Cut t ps →
      ((∃ ts, ofText t = .ok ts) ↔ ∀ p ∈ ps, p.fault? = none) ∧
      (∀ ts, ofText t = .ok ts → List.Forall₂ Piece.Reads (ps.filter (!·.isBlank)) ts) ∧
      ∀ fault, ofText t = .error fault ↔ ∃ done p rest, ps = done ++ p :: rest ∧
        p.fault? = some fault ∧ ∀ q ∈ done, q.fault? = none) ∧
    ∀ ds, (Defect.operandOutOfRange ds).message = "operand out of range: ".toList ++ ds := by
  refine ⟨exists_cut t, fun ps hCut => ?_, fun ds => rfl⟩
  have hDecides := hCut.decides_ofText
  refine ⟨?_, fun ts hText => ?_, fun fault => ?_⟩
  · rw [← List.findSome?_eq_none_iff]
    rcases hDecides with ⟨fault, hFirst, hText⟩ | ⟨hNone, ts, hText, -⟩
    · simp [hFirst, hText]
    · simp [hNone, hText]
  · rcases hDecides with ⟨fault, -, hFault⟩ | ⟨-, ts', hText', hReads⟩
    · rw [hText] at hFault
      cases hFault
    · rw [hText] at hText'
      cases hText'
      exact hReads
  · rw [← List.findSome?_eq_some_iff]
    rcases hDecides with ⟨fault', hFirst, hText⟩ | ⟨hNone, ts, hText, -⟩
    · simp [hFirst, hText]
    · simp [hNone, hText]

/-- A numeral, three angle brackets and a number that is out of range. -/
def twoFaults : Text :=
  ['0', '7', '<', '<', '<', '2', '1', '4', '7', '4', '8', '3', '6', '4', '8']

/-- Two of the brackets are a shift, and the third is the leftmost fault. -/
theorem ofText_twoFaults :
    Cut twoFaults [.digits ['0', '7'], .mark ['<', '<'], .mark ['<'],
      .digits ['2', '1', '4', '7', '4', '8', '3', '6', '4', '8']] ∧
    Token.ofText twoFaults = .error (.unknownOperator ['<']) := by
  have hCut : Cut twoFaults [.digits ['0', '7'], .mark ['<', '<'], .mark ['<'],
      .digits ['2', '1', '4', '7', '4', '8', '3', '6', '4', '8']] :=
    @Cut.digits ['0', '7'] _ _ nofun (List.all_eq_true.1 rfl) (by simp) <| .double (.inl rfl) <|
      .single rfl rfl (by simp) <|
      @Cut.digits ['2', '1', '4', '7', '4', '8', '3', '6', '4', '8'] _ _ nofun
        (List.all_eq_true.1 rfl) (by simp) .nil
  have hGood : ∀ q ∈ [Piece.digits ['0', '7'], .mark ['<', '<']], q.fault? = none := by decide
  have hLone : (Piece.mark ['<']).fault? = some (.unknownOperator ['<']) := by decide
  obtain ⟨-, hPieces, -⟩ := Token.ofText_iff_pieces_and_leftmost_fault twoFaults
  obtain ⟨-, -, hFault⟩ := hPieces _ hCut
  exact ⟨hCut, (hFault _).2 ⟨_, _, _, rfl, hLone, hGood⟩⟩

end Prose.Expr
