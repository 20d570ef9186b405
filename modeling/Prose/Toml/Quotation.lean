import Prose.Text.Hexadecimal

/-!
# Strings of a TOML document

Reading the four kinds of strings: basic ones with escapes and literal ones without, each on one
line or on many. The readers return what they read with the rest of the text. A string on many lines
may end in up to two quotation marks of its own before the three that close it, its line ends count
as line feeds, and a line feed right behind the opening does not belong to it.
-/

namespace Prose.Toml

/-- The characters that may stand in a string or a comment: no control but the tab. -/
def isPlain (c : Char) : Bool :=
  c = '\t' || (32 ≤ c.toNat && c.toNat ≠ 127)

/-- Spaces and tabs. -/
def isGap (c : Char) : Bool :=
  c = ' ' || c = '\t'

def skipGap (t : Text) : Text :=
  t.dropWhile isGap

/-- The rest behind a line end. -/
def lineEnd? : Text → Option Text
  | '\n' :: rest => some rest
  | '\r' :: '\n' :: rest => some rest
  | _ => none

/-- The character that hexadecimal digits number. -/
def numbered? (digits : Text) : Option Char := do
  Hexadecimal.char? (← digits.foldlM (fun n d => return 16 * n + (← Hexadecimal.digit? d)) 0)

/-- The character behind a backslash. -/
def escaped? : Text → Option (Char × Text)
  | 'b' :: rest => some ('\x08', rest)
  | 'f' :: rest => some ('\x0c', rest)
  | 'n' :: rest => some ('\n', rest)
  | 'r' :: rest => some ('\r', rest)
  | 't' :: rest => some ('\t', rest)
  | '\\' :: rest => some ('\\', rest)
  | '"' :: rest => some ('"', rest)
  | 'u' :: rest =>
    if rest.length < 4 then none else (numbered? (rest.take 4)).map (·, rest.drop 4)
  | 'U' :: rest =>
    if rest.length < 8 then none else (numbered? (rest.take 8)).map (·, rest.drop 8)
  | _ => none

theorem length_of_escaped? {t : Text} {c : Char} {rest : Text} (h : escaped? t = some (c, rest)) :
    rest.length < t.length := by
  unfold escaped? at h
  split at h <;> grind [Option.map_eq_some_iff]

/-- What was read, with one more character in front. -/
def withChar (c : Char) (read : Option (Text × Text)) : Option (Text × Text) :=
  read.map fun (s, rest) => (c :: s, rest)

theorem exists_of_withChar {c : Char} {read : Option (Text × Text)} {s rest : Text}
    (h : withChar c read = some (s, rest)) : ∃ s', read = some (s', rest) ∧ s = c :: s' := by
  obtain ⟨⟨s', rest'⟩, hRead, hEq⟩ := Option.map_eq_some_iff.1 h
  simp only [Prod.mk.injEq] at hEq
  obtain ⟨rfl, rfl⟩ := hEq
  exact ⟨s', hRead, rfl⟩

/-- A basic string behind its opening mark. -/
def basic (t : Text) : Option (Text × Text) :=
  match t with
  | [] => none
  | '"' :: rest => some ([], rest)
  | '\\' :: rest =>
    match _h : escaped? rest with
    | some (c, rest') => withChar c (basic rest')
    | none => none
  | c :: rest =>
    if isPlain c then withChar c (basic rest) else none
termination_by t.length
decreasing_by
  · have := length_of_escaped? _h
    simp only [List.length_cons]
    omega
  · simp

/-- A literal string behind its opening mark. -/
def literal : Text → Option (Text × Text)
  | [] => none
  | '\'' :: rest => some ([], rest)
  | c :: rest =>
    if isPlain c then withChar c (literal rest) else none

/-- Up to two marks that belong to the string, behind three marks that could close it. -/
def ownMarks (mark : Char) : Text → Text × Text
  | a :: b :: rest =>
    if a = mark && b = mark then ([a, b], rest)
    else if a = mark then ([a], b :: rest)
    else ([], a :: b :: rest)
  | [a] => if a = mark then ([a], []) else ([], [a])
  | [] => ([], [])

/-- Drops gaps and line ends. -/
def skipLines : Text → Text
  | '\n' :: rest => skipLines rest
  | '\r' :: '\n' :: rest => skipLines rest
  | c :: rest => if isGap c then skipLines rest else c :: rest
  | [] => []

/-- A backslash at the end of a line takes the line end and the gaps and line ends behind it
away. -/
def continuation? (t : Text) : Option Text :=
  (lineEnd? (skipGap t)).map skipLines

theorem length_skipLines_le (t : Text) : (skipLines t).length ≤ t.length := by
  fun_induction skipLines t <;> grind

theorem length_of_lineEnd? {t rest : Text} (h : lineEnd? t = some rest) :
    rest.length < t.length := by
  unfold lineEnd? at h
  split at h <;> simp at h <;> subst h <;> simp only [List.length_cons] <;> omega

theorem length_of_continuation? {t rest : Text} (h : continuation? t = some rest) :
    rest.length < t.length := by
  obtain ⟨u, hEnd, rfl⟩ := Option.map_eq_some_iff.1 h
  have h₁ := length_of_lineEnd? hEnd
  have h₂ := (List.dropWhile_sublist isGap (l := t)).length_le
  have h₃ := length_skipLines_le u
  simp only [skipGap] at h₁
  omega

/-- A basic string on many lines behind its opening marks and an optional line end. -/
def basicLines (t : Text) : Option (Text × Text) :=
  match t with
  | [] => none
  | '"' :: '"' :: '"' :: rest => some (ownMarks '"' rest)
  | '\\' :: rest =>
    match _hLine : continuation? rest with
    | some rest' => basicLines rest'
    | none =>
      match _h : escaped? rest with
      | some (c, rest') => withChar c (basicLines rest')
      | none => none
  | '\n' :: rest => withChar '\n' (basicLines rest)
  | '\r' :: '\n' :: rest => withChar '\n' (basicLines rest)
  | c :: rest =>
    if isPlain c then withChar c (basicLines rest) else none
termination_by t.length
decreasing_by
  · have := length_of_continuation? _hLine
    simp only [List.length_cons]
    omega
  · have := length_of_escaped? _h
    simp only [List.length_cons]
    omega
  · simp
  · simp only [List.length_cons]
    omega
  · simp

/-- A literal string on many lines behind its opening marks and an optional line end. -/
def literalLines : Text → Option (Text × Text)
  | [] => none
  | '\'' :: '\'' :: '\'' :: rest => some (ownMarks '\'' rest)
  | '\n' :: rest => withChar '\n' (literalLines rest)
  | '\r' :: '\n' :: rest => withChar '\n' (literalLines rest)
  | c :: rest =>
    if isPlain c then withChar c (literalLines rest) else none

/-- A line end right behind the opening marks does not count. -/
def skipFirstLineEnd (t : Text) : Text :=
  (lineEnd? t).getD t

theorem length_of_basic {t s rest : Text} (h : basic t = some (s, rest)) :
    rest.length < t.length := by
  fun_induction basic t generalizing s <;>
    grind [→ length_of_escaped?, → exists_of_withChar]

theorem length_of_literal {t s rest : Text} (h : literal t = some (s, rest)) :
    rest.length < t.length := by
  fun_induction literal t generalizing s <;> grind [→ exists_of_withChar]

theorem length_ownMarks_le (mark : Char) (t : Text) : (ownMarks mark t).2.length ≤ t.length := by
  unfold ownMarks
  grind

theorem length_of_basicLines {t s rest : Text} (h : basicLines t = some (s, rest)) :
    rest.length < t.length := by
  fun_induction basicLines t generalizing s <;>
    grind [→ length_of_escaped?, → length_of_continuation?, length_ownMarks_le,
      → exists_of_withChar]

theorem length_of_literalLines {t s rest : Text} (h : literalLines t = some (s, rest)) :
    rest.length < t.length := by
  fun_induction literalLines t generalizing s <;>
    grind [length_ownMarks_le, → exists_of_withChar]

theorem length_skipFirstLineEnd_le (t : Text) : (skipFirstLineEnd t).length ≤ t.length := by
  unfold skipFirstLineEnd
  cases h : lineEnd? t with
  | none => simp
  | some rest => exact Nat.le_of_lt (length_of_lineEnd? h)

end Prose.Toml
