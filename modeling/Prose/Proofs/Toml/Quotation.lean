import Mathlib
import Prose.Toml.Token
import Prose.Toml.Written

/-!
# Written strings read back

Each of the four ways to write a string is undone by its reader, whatever stands behind the closing
marks (`string?_string`). On one line an escape names its character, and a string without escapes
holds nothing that the reader stops at. On many lines the point is where three marks in a row close
the string: a text has no row that long, or the writer breaks it with an escape, and up to two marks
at the end of the text belong to it.
-/

namespace Prose.Toml

theorem withChar_some (c : Char) (s rest : Text) :
    withChar c (some (s, rest)) = some (c :: s, rest) :=
  rfl

/-! ### Readers at one character -/

section

variable {c : Char} {t : Text}

theorem basic_quote (t : Text) : basic ('"' :: t) = some ([], t) := by
  rw [basic]

theorem basic_backslash {rest : Text} (h : escaped? t = some (c, rest)) :
    basic ('\\' :: t) = withChar c (basic rest) := by
  rw [basic]
  split <;> simp_all

theorem basic_plain (hPlain : isPlain c) (hQuote : c ≠ '"') (hSlash : c ≠ '\\') :
    basic (c :: t) = withChar c (basic t) := by
  rw [basic, if_pos hPlain]
  · exact hQuote
  · exact hSlash

theorem literal_quote (t : Text) : literal ('\'' :: t) = some ([], t) := by
  rw [literal]

theorem literal_plain (hPlain : isPlain c) (hQuote : c ≠ '\'') :
    literal (c :: t) = withChar c (literal t) := by
  rw [literal, if_pos hPlain]
  exact hQuote

theorem basicLines_close (t : Text) :
    basicLines ('"' :: '"' :: '"' :: t) = some (ownMarks '"' t) := by
  rw [basicLines]

theorem basicLines_backslash {rest : Text} (hLine : continuation? t = none)
    (h : escaped? t = some (c, rest)) : basicLines ('\\' :: t) = withChar c (basicLines rest) := by
  rw [basicLines]
  split <;> simp_all
  split <;> simp_all

theorem basicLines_feed (t : Text) : basicLines ('\n' :: t) = withChar '\n' (basicLines t) := by
  rw [basicLines]

theorem basicLines_plain (hPlain : isPlain c) (hQuotes : c = '"' → ¬ ['"', '"'] <+: t)
    (hSlash : c ≠ '\\') : basicLines (c :: t) = withChar c (basicLines t) := by
  rw [basicLines, if_pos hPlain]
  · intro rest hc ht
    exact hQuotes hc ⟨rest, by simp [ht]⟩
  · exact hSlash
  · rintro rfl
    cases hPlain
  · rintro rest rfl
    cases hPlain

theorem literalLines_close (t : Text) :
    literalLines ('\'' :: '\'' :: '\'' :: t) = some (ownMarks '\'' t) := by
  rw [literalLines]

theorem literalLines_feed (t : Text) :
    literalLines ('\n' :: t) = withChar '\n' (literalLines t) := by
  rw [literalLines]

theorem literalLines_plain (hPlain : isPlain c) (hQuotes : c = '\'' → ¬ ['\'', '\''] <+: t) :
    literalLines (c :: t) = withChar c (literalLines t) := by
  rw [literalLines, if_pos hPlain]
  · intro rest hc ht
    exact hQuotes hc ⟨rest, by simp [ht]⟩
  · rintro rfl
    cases hPlain
  · rintro rest rfl
    cases hPlain

end

/-! ### Escapes -/

namespace Written

theorem isPlain_of_needsEscape_eq_false {c : Char} (h : needsEscape c = false) (hFeed : c ≠ '\n') :
    isPlain c := by
  by_cases hTab : c = '\t'
  · rw [hTab]
    rfl
  · simp only [needsEscape, hTab, hFeed, ne_eq, not_false_eq_true, decide_true, Bool.and_true,
      Bool.or_eq_false_iff, decide_eq_false_iff_not, Nat.not_lt] at h
    simp [isPlain, h]

/-- Four hexadecimal digits number every character that has no shorter escape. -/
theorem numbered?_of_needsEscape {c : Char} (h : needsEscape c) :
    numbered? ['0', '0', Hexadecimal.ofDigit (c.toNat / 16), Hexadecimal.ofDigit (c.toNat % 16)] =
      some c := by
  have hAll : ∀ n < 128, numbered?
      ['0', '0', Hexadecimal.ofDigit (n / 16), Hexadecimal.ofDigit (n % 16)] =
        some (Char.ofNat n) := by
    decide
  have hSmall : c.toNat < 128 := by
    simp only [needsEscape, Bool.or_eq_true, Bool.and_eq_true, decide_eq_true_eq] at h
    omega
  rw [hAll _ hSmall, Char.ofNat_toNat]

/-- A character that is no mark is written as itself, as a line end between lines, or as an escape
that names it. -/
theorem escapeChar_cases (lines : Bool) (c : Char) :
    (escapeChar lines c = [c] ∧ isPlain c ∧ c ≠ '\\') ∨
      (escapeChar lines c = ['\n'] ∧ c = '\n' ∧ lines) ∨
      ∃ d e, escapeChar lines c = '\\' :: d :: e ∧ (isGap d = false ∧ d ≠ '\n' ∧ d ≠ '\r') ∧
        ∀ rest, escaped? (d :: (e ++ rest)) = some (c, rest) := by
  unfold escapeChar
  split_ifs with hBack hTab hFeed hLines hPage hReturn hSlash hEscape
  · exact .inr (.inr ⟨'b', [], rfl, by decide, fun rest => by rw [hBack]; rfl⟩)
  · exact .inr (.inr ⟨'t', [], rfl, by decide, fun rest => by rw [hTab]; rfl⟩)
  · exact .inr (.inl ⟨rfl, hFeed, hLines⟩)
  · exact .inr (.inr ⟨'n', [], rfl, by decide, fun rest => by rw [hFeed]; rfl⟩)
  · exact .inr (.inr ⟨'f', [], rfl, by decide, fun rest => by rw [hPage]; rfl⟩)
  · exact .inr (.inr ⟨'r', [], rfl, by decide, fun rest => by rw [hReturn]; rfl⟩)
  · exact .inr (.inr ⟨'\\', [], rfl, by decide, fun rest => by rw [hSlash]; rfl⟩)
  · refine .inr (.inr ⟨'u', _, rfl, by decide, fun rest => ?_⟩)
    simp [escaped?, numbered?_of_needsEscape hEscape]
  · exact .inl ⟨rfl, isPlain_of_needsEscape_eq_false (by simpa using hEscape) hFeed, hSlash⟩

theorem basic_escapeChar {c : Char} (hQuote : c ≠ '"') (t : Text) :
    basic (escapeChar false c ++ t) = withChar c (basic t) := by
  rcases escapeChar_cases false c with ⟨hSelf, hPlain, hSlash⟩ | ⟨-, -, hLines⟩ |
    ⟨d, e, hEscape, -, hRead⟩
  · rw [hSelf, List.singleton_append, basic_plain hPlain hQuote hSlash]
  · cases hLines
  · rw [hEscape, List.cons_append, List.cons_append, basic_backslash (hRead t)]

theorem lineEnd?_eq_none {t : Text} (h : ∀ c ∈ t.head?, c ≠ '\n' ∧ c ≠ '\r') :
    lineEnd? t = none := by
  unfold lineEnd?
  split <;> simp_all

/-- Only a gap or a line end behind a backslash goes on with the next line. -/
theorem continuation?_cons {d : Char} (h : isGap d = false ∧ d ≠ '\n' ∧ d ≠ '\r') (t : Text) :
    continuation? (d :: t) = none := by
  rw [continuation?, skipGap, List.dropWhile_cons_of_neg (by simp [h.1]), Option.map_eq_none_iff]
  exact lineEnd?_eq_none (by simpa using h.2)

theorem basicLines_escapeChar {c : Char} (hQuote : c ≠ '"') (t : Text) :
    basicLines (escapeChar true c ++ t) = withChar c (basicLines t) := by
  rcases escapeChar_cases true c with ⟨hSelf, hPlain, hSlash⟩ | ⟨hFeed, rfl, -⟩ |
    ⟨d, e, hEscape, hHead, hRead⟩
  · rw [hSelf, List.singleton_append, basicLines_plain hPlain (absurd · hQuote) hSlash]
  · rw [hFeed, List.singleton_append, basicLines_feed]
  · rw [hEscape, List.cons_append, List.cons_append,
      basicLines_backslash (continuation?_cons hHead _) (hRead t)]

/-! ### Strings on one line -/

theorem basic_escape (marks : Nat) (t rest : Text) :
    basic (escape false marks t ++ '"' :: rest) = some (t, rest) := by
  induction t generalizing marks with
  | nil => exact basic_quote rest
  | cons c t ih =>
    by_cases hQuote : c = '"'
    · subst hQuote
      rw [escape, if_pos rfl, if_neg (by simp), List.cons_append, List.cons_append,
        basic_backslash (show escaped? ('"' :: _) = some ('"', _) from rfl), ih, withChar_some]
    · rw [escape, if_neg hQuote, List.append_assoc, basic_escapeChar hQuote, ih, withChar_some]

theorem literal_append {t : Text} (hPlain : ∀ c ∈ t, isPlain c) (hQuote : '\'' ∉ t) (rest : Text) :
    literal (t ++ '\'' :: rest) = some (t, rest) := by
  induction t with
  | nil => exact literal_quote rest
  | cons c t ih =>
    rw [List.forall_mem_cons] at hPlain
    rw [List.mem_cons, not_or] at hQuote
    rw [List.cons_append, literal_plain hPlain.1 (Ne.symm hQuote.1), ih hPlain.2 hQuote.2,
      withChar_some]

/-! ### Strings on many lines -/

section

variable {mark : Char} {t rest : Text}

theorem ownMarks_zero (hRest : ∀ c ∈ rest.head?, c ≠ mark) : ownMarks mark rest = ([], rest) := by
  unfold ownMarks
  split <;> simp_all

theorem ownMarks_one (hRest : ∀ c ∈ rest.head?, c ≠ mark) :
    ownMarks mark (mark :: rest) = ([mark], rest) := by
  unfold ownMarks
  split <;> simp_all

theorem ownMarks_two (mark : Char) (rest : Text) :
    ownMarks mark (mark :: mark :: rest) = ([mark, mark], rest) := by
  simp [ownMarks]

/-- Three marks close a literal string, and a text without such a row is read to its end. -/
theorem literalLines_append (hPlain : ∀ c ∈ t, c = '\n' ∨ isPlain c)
    (hRow : ¬ ['\'', '\'', '\''] <:+: t) (hRest : ∀ c ∈ rest.head?, c ≠ '\'') :
    literalLines (t ++ '\'' :: '\'' :: '\'' :: rest) = some (t, rest) := by
  induction t with
  | nil =>
    rw [List.nil_append, literalLines_close, ownMarks_zero hRest]
  | cons c t ih =>
    rw [List.forall_mem_cons] at hPlain
    have hTail := ih hPlain.2 fun h => hRow (h.trans (List.suffix_cons c t).isInfix)
    rw [List.cons_append]
    by_cases hFeed : c = '\n'
    · rw [hFeed, literalLines_feed, hTail, withChar_some]
    by_cases hTwo : c = '\'' ∧ ['\'', '\''] <+: t ++ '\'' :: '\'' :: '\'' :: rest
    · obtain ⟨rfl, hTwo⟩ := hTwo
      -- the first three marks end the text and start the closing ones
      cases t with
      | nil => rw [List.nil_append, literalLines_close, ownMarks_one hRest]
      | cons d t =>
        obtain ⟨rfl, hOne⟩ := List.cons_prefix_cons.1 hTwo
        cases t with
        | nil => rw [List.singleton_append, literalLines_close, ownMarks_two]
        | cons e t =>
          obtain ⟨rfl, -⟩ := List.cons_prefix_cons.1 hOne
          exact absurd ⟨[], t, rfl⟩ hRow
    · rw [literalLines_plain (hPlain.1.resolve_left hFeed) (fun hc h => hTwo ⟨hc, h⟩), hTail,
        withChar_some]

/-- An escaped text starts with a mark only where the text does, and only between lines behind fewer
than two marks. -/
theorem starts_escape {lines : Bool} {marks : Nat} (h : ['"'] <+: escape lines marks t ++ rest) :
    t = [] ∨ (lines ∧ marks < 2) ∧ ∃ t', t = '"' :: t' := by
  cases t with
  | nil => exact .inl rfl
  | cons c t =>
    refine .inr ?_
    by_cases hQuote : c = '"'
    · refine ⟨?_, t, by rw [hQuote]⟩
      by_contra hMarks
      rw [escape, if_pos hQuote, if_neg (by simpa using hMarks)] at h
      simp at h
    · rw [escape, if_neg hQuote, List.append_assoc] at h
      rcases escapeChar_cases lines c with ⟨hSelf, -⟩ | ⟨hFeed, -⟩ | ⟨d, e, hEscape, -⟩
      · simp [hSelf, Ne.symm hQuote] at h
      · simp [hFeed] at h
      · simp [hEscape] at h

/-- Behind one mark, two more in a row come from the end of the text. -/
theorem starts_escape_close {marks : Nat} (hMarks : 0 < marks)
    (h : ['"', '"'] <+: escape true marks t ++ '"' :: '"' :: '"' :: rest) :
    t = [] ∨ t = ['"'] ∧ marks = 1 := by
  have hOne : ['"'] <+: escape true marks t ++ '"' :: '"' :: '"' :: rest :=
    List.IsPrefix.trans ⟨['"'], rfl⟩ h
  rcases starts_escape hOne with hNil | ⟨⟨-, hFew⟩, t', rfl⟩
  · exact .inl hNil
  · have hMarks : marks = 1 := by omega
    subst hMarks
    rw [escape, if_pos rfl, if_pos (by simp), List.cons_append] at h
    rcases starts_escape (List.cons_prefix_cons.1 h).2 with rfl | ⟨⟨-, hTwo⟩, -⟩
    · exact .inr ⟨rfl, rfl⟩
    · omega

/-- Between lines the reader takes an escaped text, however many marks stand in front of it. -/
theorem basicLines_escape (marks : Nat) (hRest : ∀ c ∈ rest.head?, c ≠ '"') :
    basicLines (escape true marks t ++ '"' :: '"' :: '"' :: rest) = some (t, rest) := by
  induction t generalizing marks with
  | nil => rw [escape, List.nil_append, basicLines_close, ownMarks_zero hRest]
  | cons c t ih =>
    by_cases hQuote : c = '"'
    · subst hQuote
      by_cases hMarks : marks < 2
      · rw [escape, if_pos rfl, if_pos (by simpa using hMarks), List.cons_append]
        by_cases hTwo : ['"', '"'] <+: escape true (marks + 1) t ++ '"' :: '"' :: '"' :: rest
        · rcases starts_escape_close (Nat.succ_pos _) hTwo with rfl | ⟨rfl, hZero⟩
          · rw [escape, List.nil_append, basicLines_close, ownMarks_one hRest]
          · obtain rfl : marks = 0 := by omega
            show basicLines ('"' :: '"' :: '"' :: '"' :: '"' :: rest) = _
            rw [basicLines_close, ownMarks_two]
        · rw [basicLines_plain rfl (fun _ => hTwo) (by decide), ih, withChar_some]
      · rw [escape, if_pos rfl, if_neg (by simpa using hMarks), List.cons_append, List.cons_append,
          basicLines_backslash (continuation?_cons (by decide) _)
            (show escaped? ('"' :: _) = some ('"', _) from rfl), ih, withChar_some]
    · rw [escape, if_neg hQuote, List.append_assoc, basicLines_escapeChar hQuote, ih, withChar_some]

end

/-! ### Styles -/

section

variable {t rest : Text}

theorem le_longestRow_self (c : Char) (n : Nat) (t : Text) : n ≤ longestRow c n t := by
  induction t generalizing n with
  | nil => exact Nat.le_refl n
  | cons d t ih =>
    rw [longestRow]
    split
    · exact (Nat.le_succ n).trans (ih (n + 1))
    · exact Nat.le_max_left _ _

theorem le_longestRow_append (c : Char) (n k : Nat) (t : Text) :
    n + k ≤ longestRow c n (List.replicate k c ++ t) := by
  induction k generalizing n with
  | zero => exact le_longestRow_self c n t
  | succ k ih =>
    rw [List.replicate_succ, List.cons_append, longestRow, if_pos rfl]
    have := ih (n + 1)
    omega

/-- No row of a text is longer than its longest one. -/
theorem le_longestRow {c : Char} {k : Nat} {t : Text} (h : List.replicate k c <:+: t) (n : Nat) :
    k ≤ longestRow c n t := by
  obtain ⟨u, v, rfl⟩ := h
  induction u generalizing n with
  | nil =>
    have := le_longestRow_append c n k v
    rw [List.nil_append]
    omega
  | cons d u ih =>
    rw [List.cons_append, List.cons_append, longestRow]
    split
    · exact ih _
    · exact (ih _).trans (Nat.le_max_right _ _)

theorem not_mem_of_longestRow {c : Char} {t : Text} (h : longestRow c 0 t = 0) : c ∉ t := by
  intro hMem
  have hRow : List.replicate 1 c <:+: t := (List.singleton_infix_iff c t).2 hMem
  have := le_longestRow hRow 0
  omega

theorem not_infix_of_longestRow {c : Char} {t : Text} (h : longestRow c 0 t ≤ 2) :
    ¬ [c, c, c] <:+: t := by
  intro hRow
  have := le_longestRow (k := 3) hRow 0
  omega

/-- The four written forms. A literal string can hold its text as it stands: there is nothing in it
that only an escape can give, and no row of marks that would close it. -/
theorem string_cases (t : Text) :
    string t = '"' :: escape false 0 t ++ ['"'] ∨
      (string t = '\'' :: t ++ ['\''] ∧ (∀ c ∈ t, isPlain c) ∧ '\'' ∉ t) ∨
      string t = openLines '"' t ++ escape true 0 t ++ ['"', '"', '"'] ∨
      (string t = openLines '\'' t ++ t ++ ['\'', '\'', '\''] ∧ (∀ c ∈ t, c = '\n' ∨ isPlain c) ∧
        ¬ ['\'', '\'', '\''] <:+: t) := by
  have hNoEscape (h : t.any needsEscape = false) : ∀ c ∈ t, needsEscape c = false := by
    simpa using h
  unfold string Style.of
  simp only [Bool.and_eq_true, Bool.not_eq_true', decide_eq_true_eq]
  split_ifs with hBasic hLiteral hBasicLines hLiteralLines hLines
  · exact .inl rfl
  · obtain ⟨⟨hEscapes, hRow⟩, hLines⟩ := hLiteral
    refine .inr (.inl ⟨rfl, fun c hc => ?_, not_mem_of_longestRow hRow⟩)
    refine isPlain_of_needsEscape_eq_false (hNoEscape hEscapes c hc) ?_
    rintro rfl
    rw [List.any_eq_false] at hLines
    exact hLines '\n' hc rfl
  · exact .inr (.inr (.inl rfl))
  · obtain ⟨hEscapes, hRow⟩ := hLiteralLines
    refine .inr (.inr (.inr ⟨rfl, fun c hc => ?_, not_infix_of_longestRow hRow⟩))
    exact or_iff_not_imp_left.2
      (isPlain_of_needsEscape_eq_false (hNoEscape hEscapes c hc))
  · exact .inr (.inr (.inl rfl))
  · exact .inl rfl

/-- A line end right behind the opening marks is one that the writer put there. -/
theorem exists_openLines (mark : Char) {t body : Text}
    (hBody : '\n' ∉ t → ∀ c ∈ body.head?, c ≠ '\n' ∧ c ≠ '\r') :
    ∃ u, openLines mark t ++ body = mark :: mark :: mark :: u ∧ skipFirstLineEnd u = body := by
  unfold openLines
  split_ifs with hFeed
  · exact ⟨'\n' :: body, rfl, rfl⟩
  · refine ⟨body, rfl, ?_⟩
    rw [skipFirstLineEnd, lineEnd?_eq_none (hBody ?_), Option.getD_none]
    intro hMem
    exact hFeed (List.any_eq_true.2 ⟨'\n', hMem, rfl⟩)

theorem not_newline_of_isPlain {c : Char} (h : isPlain c) : c ≠ '\n' ∧ c ≠ '\r' := by
  constructor
  · rintro rfl
    cases h
  · rintro rfl
    cases h

/-- An escaped text without line ends does not start with one. -/
theorem head?_escape_append (hFeed : '\n' ∉ t) :
    ∀ c ∈ (escape true 0 t ++ '"' :: rest).head?, c ≠ '\n' ∧ c ≠ '\r' := by
  cases t with
  | nil => simp [escape]
  | cons c t =>
    by_cases hQuote : c = '"'
    · rw [escape, if_pos hQuote, if_pos (by decide)]
      simp
    · rw [escape, if_neg hQuote]
      rcases escapeChar_cases true c with ⟨hSelf, hPlain, -⟩ | ⟨-, rfl, -⟩ | ⟨d, e, hEscape, -⟩
      · simpa [hSelf] using not_newline_of_isPlain hPlain
      · simp at hFeed
      · simp [hEscape]

theorem string?_quote (h : ¬ ['"', '"'] <+: t) :
    Token.string? ('"' :: t) = (basic t).map fun (s, rest) => (.quoted s, rest) := by
  unfold Token.string?
  split <;> simp_all

theorem string?_apostrophe (h : ¬ ['\'', '\''] <+: t) :
    Token.string? ('\'' :: t) = (literal t).map fun (s, rest) => (.quoted s, rest) := by
  unfold Token.string?
  split <;> simp_all

theorem string?_basic (hRest : ∀ c ∈ rest.head?, c ≠ '"') :
    Token.string? ('"' :: (escape false 0 t ++ '"' :: rest)) = some (.quoted t, rest) := by
  have hOpen : ¬ ['"', '"'] <+: escape false 0 t ++ '"' :: rest := by
    intro hTwo
    rcases starts_escape (List.IsPrefix.trans ⟨['"'], rfl⟩ hTwo) with rfl | ⟨⟨hLines, -⟩, -⟩
    · obtain ⟨u, rfl⟩ := (List.cons_prefix_cons.1 hTwo).2
      exact hRest '"' rfl rfl
    · cases hLines
  rw [string?_quote hOpen, basic_escape]
  rfl

theorem string?_literal (hPlain : ∀ c ∈ t, isPlain c) (hQuote : '\'' ∉ t)
    (hRest : ∀ c ∈ rest.head?, c ≠ '\'') :
    Token.string? ('\'' :: (t ++ '\'' :: rest)) = some (.quoted t, rest) := by
  have hOpen : ¬ ['\'', '\''] <+: t ++ '\'' :: rest := by
    intro hTwo
    cases t with
    | nil =>
      obtain ⟨u, rfl⟩ := (List.cons_prefix_cons.1 hTwo).2
      exact hRest '\'' rfl rfl
    | cons c t =>
      obtain ⟨rfl, -⟩ := List.cons_prefix_cons.1 hTwo
      exact hQuote List.mem_cons_self
  rw [string?_apostrophe hOpen, literal_append hPlain hQuote]
  rfl

theorem string?_basicLines (hRest : ∀ c ∈ rest.head?, c ≠ '"') :
    Token.string? (openLines '"' t ++ (escape true 0 t ++ '"' :: '"' :: '"' :: rest)) =
      some (.lines t, rest) := by
  have hHead : '\n' ∉ t →
      ∀ c ∈ (escape true 0 t ++ '"' :: '"' :: '"' :: rest).head?, c ≠ '\n' ∧ c ≠ '\r' :=
    head?_escape_append
  obtain ⟨u, hOpen, hSkip⟩ := exists_openLines '"' hHead
  rw [hOpen, Token.string?, hSkip, basicLines_escape 0 hRest]
  rfl

theorem string?_literalLines (hPlain : ∀ c ∈ t, c = '\n' ∨ isPlain c)
    (hRow : ¬ ['\'', '\'', '\''] <:+: t) (hRest : ∀ c ∈ rest.head?, c ≠ '\'') :
    Token.string? (openLines '\'' t ++ (t ++ '\'' :: '\'' :: '\'' :: rest)) =
      some (.lines t, rest) := by
  have hHead : '\n' ∉ t →
      ∀ c ∈ (t ++ '\'' :: '\'' :: '\'' :: rest).head?, c ≠ '\n' ∧ c ≠ '\r' := by
    intro hFeed
    cases t with
    | nil => simp
    | cons c t =>
      rw [List.mem_cons, not_or] at hFeed
      have hFirst := (hPlain c List.mem_cons_self).resolve_left (Ne.symm hFeed.1)
      simpa using not_newline_of_isPlain hFirst
  obtain ⟨u, hOpen, hSkip⟩ := exists_openLines '\'' hHead
  rw [hOpen, Token.string?, hSkip, literalLines_append hPlain hRow hRest]
  rfl

/-- The written form of a text is read back, and what stands behind it is left. -/
theorem string?_string (t : Text) :
    ∃ k, (k = .quoted t ∨ k = .lines t) ∧ ∀ rest : Text, (∀ c ∈ rest.head?, c ≠ '"' ∧ c ≠ '\'') →
      Token.string? (string t ++ rest) = some (k, rest) := by
  rcases string_cases t with h | ⟨h, hPlain, hQuote⟩ | h | ⟨h, hPlain, hRow⟩
  · refine ⟨.quoted t, .inl rfl, fun rest hRest => ?_⟩
    rw [h, List.append_assoc]
    exact string?_basic fun c hc => (hRest c hc).1
  · refine ⟨.quoted t, .inl rfl, fun rest hRest => ?_⟩
    rw [h, List.append_assoc]
    exact string?_literal hPlain hQuote fun c hc => (hRest c hc).2
  · refine ⟨.lines t, .inr rfl, fun rest hRest => ?_⟩
    rw [h, List.append_assoc, List.append_assoc]
    exact string?_basicLines fun c hc => (hRest c hc).1
  · refine ⟨.lines t, .inr rfl, fun rest hRest => ?_⟩
    rw [h, List.append_assoc, List.append_assoc]
    exact string?_literalLines hPlain hRow fun c hc => (hRest c hc).2

end

end Written

end Prose.Toml
