/-!
# Texts

A text is a list of characters, so that every scan is a recursion on a list and no position is
ever counted in bytes. This file has the character classes that the rest of the library shares and
the cutting of blank ends.
-/

namespace Prose

/-- A text is the list of its characters. -/
abbrev Text := List Char

/-- The five ASCII blanks: space, tab, line feed, form feed and carriage return. -/
def isBlank (c : Char) : Bool :=
  c = ' ' || c = '\t' || c = '\n' || c = '\x0c' || c = '\r'

/-- Word characters are the ASCII letters and digits and the underscore. -/
def isWordChar (c : Char) : Bool :=
  c.isAlphanum || c = '_'

/-- A character of the Unicode property `White_Space`. -/
def isSpace (c : Char) : Bool :=
  let n := c.toNat
  (9 ≤ n && n ≤ 13) || n = 0x20 || n = 0x85 || n = 0xA0 || n = 0x1680 ||
    (0x2000 ≤ n && n ≤ 0x200A) || n = 0x2028 || n = 0x2029 || n = 0x202F || n = 0x205F ||
    n = 0x3000

theorem isSpace_of_isBlank {c : Char} (h : isBlank c) : isSpace c := by
  simp only [isBlank, Bool.or_eq_true, decide_eq_true_eq] at h
  rcases h with (((h | h) | h) | h) | h <;> subst h <;> decide

namespace Text

/-- Drops the longest end of `t` whose characters satisfy `p`. -/
def dropEnd (p : Char → Bool) (t : Text) : Text :=
  (t.reverse.dropWhile p).reverse

/-- Drops the characters that satisfy `p` at both ends of `t`. -/
def trimBy (p : Char → Bool) (t : Text) : Text :=
  dropEnd p (t.dropWhile p)

/-- Drops the ASCII blanks at both ends. -/
def trim (t : Text) : Text :=
  trimBy isBlank t

/-- The parts of `t` between runs of characters that satisfy `p`; no part is empty. -/
def fields (p : Char → Bool) (t : Text) : List Text :=
  match _h : t.dropWhile p with
  | [] => []
  | c :: rest => (c :: rest.takeWhile (!p ·)) :: fields p (rest.dropWhile (!p ·))
termination_by t.length
decreasing_by
  have h₁ := (List.dropWhile_sublist p (l := t)).length_le
  have h₂ := (List.dropWhile_sublist (!p ·) (l := rest)).length_le
  rw [_h] at h₁
  simp only [List.length_cons] at h₁
  omega

/-- Puts a character in front of the first of several pieces. -/
def consFirst (c : Char) : List Text → List Text
  | [] => [[c]]
  | piece :: pieces => (c :: piece) :: pieces

/-- The parts in order with `sep` between neighbours. -/
def join (sep : Text) (parts : List Text) : Text :=
  List.intercalate sep parts

theorem dropEnd_sublist (p : Char → Bool) (t : Text) : (dropEnd p t).Sublist t := by
  have h := (List.dropWhile_sublist p (l := t.reverse)).reverse
  rwa [List.reverse_reverse] at h

theorem trim_sublist (t : Text) : (trim t).Sublist t :=
  (dropEnd_sublist _ _).trans (List.dropWhile_sublist _)

end Text

end Prose
