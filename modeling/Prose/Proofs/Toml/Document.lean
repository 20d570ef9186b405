import Prose.Proofs.Text.Runs
import Prose.Proofs.Toml.Quotation
import Prose.Proofs.Toml.Scalar
import Prose.Toml.Document

/-!
# Lines of a document

`d.Leads t d'` says that the lines `t` take the tables read so far from `d` to `d'`, whatever lines
follow. Lines lead on one after the other (`Leads.append`); an empty line changes nothing, a key
with a written value inserts the value, and a header opens its table. A document whose lines lead
from no tables to `d` has the entries of `d` (`ofText?_of_leads`).
-/

namespace Prose.Toml

/-! ### Tokens at the start of a text -/

namespace Token

section

variable {c : Char} {t rest : Text} {k : Token}

theorem ofText?_feed (t : Text) : ofText? ('\n' :: t) = (ofText? t).map (lineEnd :: ·) := by
  rw [ofText?]

theorem ofText?_space (t : Text) : ofText? (' ' :: t) = (ofText? t).map (gap :: ·) := by
  rw [ofText?]
  · rfl
  all_goals simp

theorem ofText?_mark (h : isMark c) (t : Text) :
    ofText? (c :: t) = (ofText? t).map (mark c :: ·) := by
  have hOther (d : Char) (hd : isMark d = false) : c ≠ d := by
    rintro rfl
    rw [h] at hd
    cases hd
  have hGap : isGap c = false := by simp [isGap, hOther ' ' rfl, hOther '\t' rfl]
  rw [ofText?, hGap, h]
  · rfl
  · exact hOther '\n' rfl
  · exact fun _ hc _ => hOther '\r' rfl hc
  · exact hOther '#' rfl

theorem head_of_string? (h : string? t = some (k, rest)) :
    ∃ c u, t = c :: u ∧ (c = '"' ∨ c = '\'') := by
  unfold string? at h
  split at h
  · exact ⟨'"', _, rfl, .inl rfl⟩
  · exact ⟨'"', _, rfl, .inl rfl⟩
  · exact ⟨'\'', _, rfl, .inr rfl⟩
  · exact ⟨'\'', _, rfl, .inr rfl⟩
  · cases h

theorem word?_eq_none (h : isWordPart c = false) (t : Text) : word? (c :: t) = none := by
  rw [word?, List.takeWhile_cons_of_neg (by simp [h])]

/-- A string does not start like a word. -/
theorem piece?_of_string? (h : string? t = some (k, rest)) : piece? t = some (k, rest) := by
  obtain ⟨c, u, rfl, hQuote⟩ := head_of_string? h
  have hWord : isWordPart c = false := by rcases hQuote with rfl | rfl <;> rfl
  rw [piece?, word?_eq_none hWord, h]

/-- A word or a string is a token as it is found. -/
theorem ofText?_of_piece? (h : piece? t = some (k, rest)) :
    ofText? t = (ofText? rest).map (k :: ·) := by
  cases t with
  | nil => cases h
  | cons c t =>
    have hFirst : isWordPart c ∨ c = '"' ∨ c = '\'' := by
      by_contra hOther
      rw [not_or, Bool.not_eq_true] at hOther
      rw [piece?, word?_eq_none hOther.1] at h
      obtain ⟨d, u, hEq, hQuote⟩ := head_of_string? h
      rw [List.cons.injEq] at hEq
      exact hOther.2 (hEq.1 ▸ hQuote)
    have hOther (d : Char) (hWord : isWordPart d = false) (hQuote : d ≠ '"' ∧ d ≠ '\'') :
        c ≠ d := by
      rintro rfl
      rcases hFirst with hWordPart | rfl | rfl
      · rw [hWord] at hWordPart
        cases hWordPart
      · exact hQuote.1 rfl
      · exact hQuote.2 rfl
    have hGap : isGap c = false := by
      simp [isGap, hOther ' ' rfl (by decide), hOther '\t' rfl (by decide)]
    have hMark : isMark c = false := by
      simp [isMark, hOther '[' rfl (by decide), hOther ']' rfl (by decide),
        hOther '\x7b' rfl (by decide), hOther '\x7d' rfl (by decide), hOther ',' rfl (by decide),
        hOther '=' rfl (by decide)]
    rw [ofText?, if_neg (by simp [hGap]), if_neg (by simp [hMark])]
    · split
      next k' rest' hPiece =>
        rw [h, Option.some.injEq, Prod.mk.injEq] at hPiece
        rw [hPiece.1, hPiece.2]
      next hPiece =>
        rw [h] at hPiece
        cases hPiece
    · exact hOther '\n' rfl (by decide)
    · exact fun _ hc _ => hOther '\r' rfl (by decide) hc
    · exact hOther '#' rfl (by decide)

/-- A word ends where none of its characters follows; a date or a time goes on behind a space only
with another such character. -/
theorem piece?_word {w : Text} (hNe : w ≠ []) (hWord : ∀ c ∈ w, isWordPart c)
    (hRest : ∀ c ∈ rest.head?, isWordPart c = false)
    (hTime : ∀ u, rest = ' ' :: u → ∀ c ∈ u.head?, isWordPart c = false) :
    piece? (w ++ rest) = some (word w, rest) := by
  have hJoin : joinTime w rest = (w, rest) := by
    unfold joinTime
    split
    next u =>
      have hNone : u.takeWhile isWordPart = [] :=
        takeWhile_append_of_head? (l := []) (by simp) (hTime u rfl)
      have hClock : Moment.isClock [] = false := rfl
      simp only [hNone, hClock, Bool.and_false, Bool.false_eq_true, if_false]
    next => rfl
  obtain ⟨c, u, rfl⟩ := List.exists_cons_of_ne_nil hNe
  rw [piece?, word?, takeWhile_append_of_head? hWord hRest, dropWhile_append_of_head? hWord hRest]
  simp only [hJoin]

/-- The written form of a text is one token in front of a line end. -/
theorem piece?_string (t : Text) :
    ∃ k, (k = quoted t ∨ k = lines t) ∧
      ∀ rest, piece? (Written.string t ++ '\n' :: rest) = some (k, '\n' :: rest) := by
  obtain ⟨k, hk, hRead⟩ := Written.string?_string t
  exact ⟨k, hk, fun rest => piece?_of_string? (hRead ('\n' :: rest) (by simp))⟩

end

end Token

/-! ### Lines -/

/-- The text is one token that stands for the value, in front of a line end. -/
def Value.IsWritten (v : Value) (t : Text) : Prop :=
  ∃ k, (∀ rest, Token.piece? (t ++ '\n' :: rest) = some (k, '\n' :: rest)) ∧
    ∀ (s : State) (key : Key), s.begin key [] k = s.complete key v []

theorem isWritten_string (t : Text) : (Value.string t).IsWritten (Written.string t) := by
  obtain ⟨k, hk, hRead⟩ := Token.piece?_string t
  refine ⟨k, hRead, fun s key => ?_⟩
  rcases hk with rfl | rfl <;> rfl

theorem isWritten_word {w : Text} {v : Value} (hNe : w ≠ []) (hWord : ∀ c ∈ w, Token.isWordPart c)
    (hValue : Value.ofWord? w = some v) : v.IsWritten w := by
  refine ⟨.word w, fun rest => ?_, ?_⟩
  · exact Token.piece?_word hNe hWord (by simp [Token.isWordPart]) (by simp)
  · intro s key
    rw [State.begin, hValue]
    rfl

theorem isWritten_integer {n : Nat} (h : n < 2 ^ 63) :
    (Value.integer n).IsWritten (Decimal.ofNat n) := by
  refine isWritten_word (Decimal.ofNat_ne_nil n) (fun c hc => ?_) (ofWord?_ofNat h)
  simp [Token.isWordPart, Char.isAlphanum, Decimal.isDigit_of_mem_ofNat hc]

theorem isWritten_boolean (b : Bool) :
    (Value.boolean b).IsWritten (if b then "true".toList else "false".toList) := by
  cases b
  · exact isWritten_word (by decide) (List.all_eq_true.1 rfl) (by simp [Value.ofWord?])
  · exact isWritten_word (by decide) (List.all_eq_true.1 rfl) (by simp [Value.ofWord?])

/-- The lines `t` take the tables read so far from `d` to `d'`, whatever lines follow. -/
def Draft.Leads (d : Draft) (t : Text) (d' : Draft) : Prop :=
  ∃ tokens, (∀ rest, Token.ofText? (t ++ rest) = (Token.ofText? rest).map (tokens ++ ·)) ∧
    tokens.foldlM State.step ⟨d, .line⟩ = some ⟨d', .line⟩

namespace Draft

variable {d d' d'' : Draft} {t s : Text}

theorem Leads.append (h : d.Leads t d') (g : d'.Leads s d'') : d.Leads (t ++ s) d'' := by
  obtain ⟨ks, hTokens, hSteps⟩ := h
  obtain ⟨ls, gTokens, gSteps⟩ := g
  refine ⟨ks ++ ls, fun rest => ?_, ?_⟩
  · rw [List.append_assoc, hTokens, gTokens, Option.map_map]
    simp only [Function.comp_def, List.append_assoc]
  · rw [List.foldlM_append, hSteps]
    exact gSteps

theorem leads_feed (d : Draft) : d.Leads ['\n'] d :=
  ⟨[.lineEnd], fun rest => Token.ofText?_feed rest, rfl⟩

section

variable {name value : Text} {v : Value}

theorem isWordPart_of_isBare {c : Char} (h : Piece.isBare c) : Token.isWordPart c := by
  simp only [Piece.isBare, Bool.or_eq_true] at h
  rcases h with (h | h) | h <;> simp [Token.isWordPart, h]

theorem ofWord_eq_name (hNe : name ≠ []) (hBare : ∀ c ∈ name, Piece.isBare c) :
    Piece.ofWord name = [.name name] := by
  induction name with
  | nil => exact absurd rfl hNe
  | cons c t ih =>
    rw [List.forall_mem_cons] at hBare
    rw [Piece.ofWord]
    · cases t with
      | nil => rfl
      | cons d t => rw [ih (List.cons_ne_nil d t) hBare.2]
    · rintro rfl
      cases hBare.1

/-- A bare name is a word that adds one part to a key. -/
theorem push?_word (hNe : name ≠ []) (hBare : ∀ c ∈ name, Piece.isBare c) :
    Piece.push? [] (.word name) = some [.name name] := by
  rw [Piece.push?, if_pos, ofWord_eq_name hNe hBare]
  · rfl
  · rw [List.all_eq_true]
    exact fun c hc => by simp [hBare c hc]

theorem leads_entry (hNe : name ≠ []) (hBare : ∀ c ∈ name, Piece.isBare c)
    (hValue : v.IsWritten value) (hInsert : d.insert ⟨[], name⟩ v = some d') :
    d.Leads (name ++ ' ' :: '=' :: ' ' :: (value ++ ['\n'])) d' := by
  obtain ⟨k, hPiece, hBegin⟩ := hValue
  refine ⟨[.word name, .gap, .mark '=', .gap, k, .lineEnd], fun rest => ?_, ?_⟩
  · have hName : Token.piece? (name ++ ' ' :: '=' :: ' ' :: (value ++ '\n' :: rest)) =
        some (.word name, ' ' :: '=' :: ' ' :: (value ++ '\n' :: rest)) :=
      Token.piece?_word hNe (fun c hc => isWordPart_of_isBare (hBare c hc))
        (by simp [Token.isWordPart]) (by simp [Token.isWordPart])
    simp only [List.append_assoc, List.cons_append, List.nil_append]
    rw [Token.ofText?_of_piece? hName, Token.ofText?_space, Token.ofText?_mark rfl,
      Token.ofText?_space, Token.ofText?_of_piece? (hPiece rest), Token.ofText?_feed]
    simp only [Option.map_map, Function.comp_def]
  · have hWord : State.step ⟨d, .line⟩ (.word name) = some ⟨d, .key [.name name]⟩ := by
      simp only [State.step, push?_word hNe hBare]
      rfl
    have hValueStep : State.step ⟨d, .value ⟨[], name⟩⟩ k = some ⟨d', .lineRest⟩ := by
      have hComplete : State.begin ⟨d, .value ⟨[], name⟩⟩ ⟨[], name⟩ [] k =
          some ⟨d', .lineRest⟩ := by
        rw [hBegin, State.complete, hInsert]
        rfl
      have hGap : k ≠ .gap := by
        rintro rfl
        cases hComplete
      show (if k = .gap then some _ else State.begin ⟨d, _⟩ ⟨[], name⟩ [] k) = _
      rw [if_neg hGap, hComplete]
    show (State.step ⟨d, .line⟩ (.word name) >>= fun s =>
      [.gap, .mark '=', .gap, k, .lineEnd].foldlM State.step s) = _
    rw [hWord]
    show (State.step ⟨d, .value ⟨[], name⟩⟩ k >>= fun s => [.lineEnd].foldlM State.step s) = _
    rw [hValueStep]
    rfl

theorem leads_header (hNe : name ≠ []) (hBare : ∀ c ∈ name, Piece.isBare c)
    (hOpen : d.openHeader false ⟨[], name⟩ = some d') :
    d.Leads ('[' :: (name ++ [']', '\n'])) d' := by
  refine ⟨[.mark '[', .word name, .mark ']', .lineEnd], fun rest => ?_, ?_⟩
  · have hName : Token.piece? (name ++ ']' :: '\n' :: rest) =
        some (.word name, ']' :: '\n' :: rest) :=
      Token.piece?_word hNe (fun c hc => isWordPart_of_isBare (hBare c hc))
        (by simp [Token.isWordPart]) (by simp)
    simp only [List.append_assoc, List.cons_append, List.nil_append]
    rw [Token.ofText?_mark rfl, Token.ofText?_of_piece? hName, Token.ofText?_mark rfl,
      Token.ofText?_feed]
    simp only [Option.map_map, Function.comp_def]
  · have hWord : State.step ⟨d, .opened⟩ (.word name) = some ⟨d, .header false [.name name]⟩ := by
      simp only [State.step, State.header, push?_word hNe hBare]
      rfl
    have hClose : State.step ⟨d, .header false [.name name]⟩ (.mark ']') =
        some ⟨d', .lineRest⟩ := by
      show (do return ⟨← d.openHeader false ⟨[], name⟩, .lineRest⟩ : Option State) = _
      rw [hOpen]
      rfl
    show (State.step ⟨d, .opened⟩ (.word name) >>= fun s =>
      [.mark ']', .lineEnd].foldlM State.step s) = _
    rw [hWord]
    show (State.step ⟨d, .header false [.name name]⟩ (.mark ']') >>= fun s =>
      [.lineEnd].foldlM State.step s) = _
    rw [hClose]
    rfl

end

end Draft

/-- A document whose lines lead to `d` has the entries of `d`. -/
theorem ofText?_of_leads {t : Text} {d : Draft} (h : Draft.Leads ⟨[], []⟩ t d)
    (hMark : t.head? ≠ some '\ufeff') : ofText? t = some (Entries.values d.root) := by
  obtain ⟨tokens, hTokens, hSteps⟩ := h
  have hAll : Token.ofText? t = some tokens := by
    have hRead := hTokens []
    rwa [List.append_nil, Token.ofText?, Option.map_some, List.append_nil] at hRead
  rw [ofText?, if_neg hMark, hAll]
  show (tokens.foldlM State.step State.initial >>= State.finish) = _
  rw [State.initial, hSteps]
  rfl

end Prose.Toml
