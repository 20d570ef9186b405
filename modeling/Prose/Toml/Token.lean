import Prose.Toml.Moment
import Prose.Toml.Quotation

/-!
# Tokens of a TOML document

The pieces of a document: words, which are unquoted keys, numbers and moments, strings on one line
and on many, brackets and other marks, gaps and line ends. Comments leave no token. What a piece is
does not depend on where it stands, except that a date and a time with one space between them are
one word.
-/

namespace Prose.Toml

inductive Token
  | word (text : Text)
  | quoted (text : Text)
  | lines (text : Text)
  | mark (c : Char)
  | gap
  | lineEnd
  deriving DecidableEq, Repr

namespace Token

def isMark (c : Char) : Bool :=
  c = '[' || c = ']' || c = '\x7b' || c = '\x7d' || c = ',' || c = '='

/-- The characters of keys, numbers and moments. -/
def isWordPart (c : Char) : Bool :=
  c.isAlphanum || c = '_' || c = '-' || c = '+' || c = '.' || c = ':'

/-- Joins a date that was read and a time one space behind it. -/
def joinTime (w : Text) : Text → Text × Text
  | ' ' :: rest =>
    let time := rest.takeWhile isWordPart
    if Moment.isDate w && Moment.isClock time then
      (w ++ ' ' :: time, rest.dropWhile isWordPart)
    else (w, ' ' :: rest)
  | rest => (w, rest)

/-- A word and the rest. -/
def word? (t : Text) : Option (Text × Text) :=
  match t.takeWhile isWordPart with
  | [] => none
  | w => some (joinTime w (t.dropWhile isWordPart))

/-- A string and the rest. -/
def string? : Text → Option (Token × Text)
  | '"' :: '"' :: '"' :: rest =>
    (basicLines (skipFirstLineEnd rest)).map fun (s, rest) => (lines s, rest)
  | '"' :: rest => (basic rest).map fun (s, rest) => (quoted s, rest)
  | '\'' :: '\'' :: '\'' :: rest =>
    (literalLines (skipFirstLineEnd rest)).map fun (s, rest) => (lines s, rest)
  | '\'' :: rest => (literal rest).map fun (s, rest) => (quoted s, rest)
  | _ => none

/-- A word or a string and the rest. -/
def piece? (t : Text) : Option (Token × Text) :=
  match word? t with
  | some (w, rest) => some (word w, rest)
  | none => string? t

theorem length_joinTime_le (w t : Text) : (joinTime w t).2.length ≤ t.length := by
  unfold joinTime
  split
  next rest =>
    have := (List.dropWhile_sublist isWordPart (l := rest)).length_le
    grind
  next => exact Nat.le_refl _

theorem length_of_word? {t w rest : Text} (h : word? t = some (w, rest)) :
    rest.length < t.length := by
  have hLength : (t.takeWhile isWordPart).length + (t.dropWhile isWordPart).length = t.length := by
    rw [← List.length_append, List.takeWhile_append_dropWhile]
  unfold word? at h
  split at h
  · contradiction
  next hWord =>
    have hJoin := length_joinTime_le (t.takeWhile isWordPart) (t.dropWhile isWordPart)
    have hPos := List.length_pos_iff.2 hWord
    grind

theorem length_of_string? {t rest : Text} {k : Token} (h : string? t = some (k, rest)) :
    rest.length < t.length := by
  unfold string? at h
  split at h <;> simp only [Option.map_eq_some_iff, reduceCtorEq, Prod.exists] at h <;>
    grind [→ length_of_basicLines, → length_of_literalLines, → length_of_basic,
      → length_of_literal, length_skipFirstLineEnd_le]

theorem length_of_piece? {t rest : Text} {k : Token} (h : piece? t = some (k, rest)) :
    rest.length < t.length := by
  unfold piece? at h
  split at h
  next hWord =>
    simp only [Option.some.injEq, Prod.mk.injEq] at h
    obtain ⟨-, rfl⟩ := h
    exact length_of_word? hWord
  next => exact length_of_string? h

/-- The tokens of a text. -/
def ofText? (t : Text) : Option (List Token) :=
  match t with
  | [] => some []
  | '\n' :: rest => (ofText? rest).map (lineEnd :: ·)
  | '\r' :: '\n' :: rest => (ofText? rest).map (lineEnd :: ·)
  | '#' :: rest => ofText? (rest.dropWhile isPlain)
  | c :: rest =>
    if isGap c then (ofText? rest).map (gap :: ·)
    else if isMark c then (ofText? rest).map (mark c :: ·)
    else
      match _h : piece? (c :: rest) with
      | some (k, rest') => (ofText? rest').map (k :: ·)
      | none => none
termination_by t.length
decreasing_by
  · simp
  · simp only [List.length_cons]
    omega
  · have := (List.dropWhile_sublist isPlain (l := rest)).length_le
    simp only [List.length_cons]
    omega
  · simp
  · simp
  · exact length_of_piece? _h

end Token

end Prose.Toml
