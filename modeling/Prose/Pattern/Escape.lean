import Prose.Pattern.Class
import Prose.Text.Hexadecimal

/-!
# Escapes

What a backslash stands for in a pattern: a character by name or by number, a named class, or an
assertion. All functions return what they read with the rest of the pattern. The classes of Unicode
properties, written with a `p` or a `P`, are not among these and are refused.
-/

namespace Prose.Pattern

/-- A part of a pattern that is not composed of others. -/
inductive Atom
  | literal (c : Char)
  | set (accepts : Class)
  | look (holds : Assertion)

/-- In verbose patterns white space and comments up to the end of the line are skipped. -/
def skipVerbose : Text → Text
  | [] => []
  | c :: rest =>
    if isSpace c then skipVerbose rest
    else if c = '#' then skipVerbose ((rest.dropWhile (· ≠ '\n')).drop 1)
    else c :: rest
termination_by t => t.length
decreasing_by
  · simp
  · have h := (List.dropWhile_sublist (· ≠ '\n') (l := rest)).length_le
    simp only [List.length_drop, List.length_cons]
    omega

def skip (flags : Flags) (t : Text) : Text :=
  if flags.verbose then skipVerbose t else t

theorem length_skipVerbose_le (t : Text) : (skipVerbose t).length ≤ t.length := by
  fun_induction skipVerbose t with
  | case1 => simp
  | case2 c rest h ih => exact Nat.le_succ_of_le ih
  | case3 rest h ih =>
    have hDrop := (List.dropWhile_sublist (· ≠ '\n') (l := rest)).length_le
    simp only [List.length_drop] at ih
    simp only [List.length_cons]
    omega
  | case4 => simp

theorem length_skip_le (flags : Flags) (t : Text) : (skip flags t).length ≤ t.length := by
  unfold skip
  split
  · exact length_skipVerbose_le t
  · exact Nat.le_refl _

/-- Exactly `n` hexadecimal digits after the value `v`. -/
def hexRun (flags : Flags) : Nat → Nat → Text → Option (Nat × Text)
  | 0, v, t => some (v, t)
  | _ + 1, _, [] => none
  | n + 1, v, c :: rest => do
    hexRun flags n (16 * v + (← Hexadecimal.digit? c)) (skip flags rest)

/-- Hexadecimal digits after the value `v` up to a closing brace. -/
def hexBraced (flags : Flags) (v : Option Nat) (t : Text) : Option (Nat × Text) :=
  match _h : skip flags t with
  | [] => none
  | c :: rest =>
    if c = '\x7d' then v.map (·, skip flags rest)
    else
      match Hexadecimal.digit? c with
      | some d => hexBraced flags (some (16 * v.getD 0 + d)) rest
      | none => none
termination_by t.length
decreasing_by
  have hSkip := length_skip_le flags t
  rw [_h] at hSkip
  simp only [List.length_cons] at hSkip
  omega

/-- A character by its number: `n` digits or any number of digits in braces. -/
def byNumber (flags : Flags) (n : Nat) (t : Text) : Option (Char × Text) := do
  let (v, rest) ←
    match skip flags t with
    | '\x7b' :: rest => hexBraced flags none rest
    | t => hexRun flags n 0 t
  return (← Hexadecimal.char? v, rest)

/-- ASCII characters other than letters and digits stand for themselves behind a backslash, but
for the two angle brackets. -/
def isEscapable (c : Char) : Bool :=
  c.toNat < 128 && !c.isAlphanum && c ≠ '<' && c ≠ '>'

/-- The named classes; a capital letter negates. Without Unicode a negated class is refused, since
it would split characters. -/
def namedClass? (flags : Flags) (c : Char) : Option (Option Class) :=
  let negated (p : Class) : Option Class := if flags.unicode then some p.negate else none
  match c with
  | 'd' => some (some (Class.digit flags.unicode))
  | 's' => some (some (Class.space flags.unicode))
  | 'w' => some (some (Class.word flags.unicode))
  | 'D' => some (negated (Class.digit flags.unicode))
  | 'S' => some (negated (Class.space flags.unicode))
  | 'W' => some (negated (Class.word flags.unicode))
  | _ => none

/-- A word boundary, where braces can name the side. Braces that do not start with a letter or a
hyphen are left to be read as a repetition. -/
def boundary (flags : Flags) (t : Text) : Option (Assertion × Text) :=
  let plain := some (Assertion.wordBoundary flags.unicode, t)
  let isNameChar (c : Char) : Bool := c.isAlpha || c = '-'
  match t with
  | '\x7b' :: rest =>
    match skip flags rest with
    | [] => none
    | c :: rest =>
      if isNameChar c then
        let name := (c :: rest).filter (fun c => !(flags.verbose && isSpace c))
          |>.takeWhile isNameChar
        match (c :: rest).dropWhile fun c => isNameChar c || (flags.verbose && isSpace c) with
        | '\x7d' :: rest =>
          match String.ofList name with
          | "start" => some (Assertion.wordStart flags.unicode, rest)
          | "end" => some (Assertion.wordEnd flags.unicode, rest)
          | "start-half" => some (Assertion.noWordBefore flags.unicode, rest)
          | "end-half" => some (Assertion.noWordAfter flags.unicode, rest)
          | _ => none
        | _ => none
      else plain
  | _ => plain

/-- The atom behind a backslash. -/
def escape (flags : Flags) : Text → Option (Atom × Text)
  | [] => none
  | c :: rest =>
    if isEscapable c then some (.literal c, rest)
    else
      match namedClass? flags c with
      | some p => p.map fun p => (.set p, rest)
      | none =>
        match c with
        | 'x' => (byNumber flags 2 rest).map fun (d, rest) => (.literal d, rest)
        | 'u' => (byNumber flags 4 rest).map fun (d, rest) => (.literal d, rest)
        | 'U' => (byNumber flags 8 rest).map fun (d, rest) => (.literal d, rest)
        | 'a' => some (.literal '\x07', rest)
        | 'f' => some (.literal '\x0c', rest)
        | 't' => some (.literal '\t', rest)
        | 'n' => some (.literal '\n', rest)
        | 'r' => some (.literal '\r', rest)
        | 'v' => some (.literal '\x0b', rest)
        | 'A' => some (.look Assertion.textStart, rest)
        | 'z' => some (.look Assertion.textEnd, rest)
        | 'b' => (boundary flags rest).map fun (a, rest) => (.look a, rest)
        | 'B' => some (.look (Assertion.wordBoundary flags.unicode).negate, rest)
        | '<' => some (.look (Assertion.wordStart flags.unicode), rest)
        | '>' => some (.look (Assertion.wordEnd flags.unicode), rest)
        | _ => none

end Prose.Pattern
