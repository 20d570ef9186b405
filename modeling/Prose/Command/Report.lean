import Prose.Text

/-!
# Reports

What a command writes: lines on the standard output, and warnings apart from them. Colors are
optional and only frame a piece of a line.
-/

namespace Prose

/-- The text for the standard output and the text for the standard error. -/
structure Report where
  out : Text
  err : Text
  deriving DecidableEq, Repr

/-- The looks of a piece of a line. -/
inductive Paint
  | green
  | yellow
  | boldRed
  | boldCyan
  deriving DecidableEq, Repr

namespace Paint

def code : Paint → Text
  | .green => "32".toList
  | .yellow => "33".toList
  | .boldRed => "1;31".toList
  | .boldCyan => "1;36".toList

def apply (paint : Paint) (colored : Bool) (t : Text) : Text :=
  if colored then "\x1b[".toList ++ paint.code ++ ['m'] ++ t ++ "\x1b[0m".toList else t

end Paint

/-- Are there colors? They can be forced, switched off, or left to whether the output goes to a
terminal. A variable that holds a zero counts as a no. -/
def wantsColors (lookup : String → Option Text) (terminal : Bool) : Bool :=
  let flag (name : String) : Option Bool := (lookup name).map (· ≠ ['0'])
  if flag "CLICOLOR_FORCE" = some true then true
  else if (flag "NO_COLOR").isSome then false
  else (flag "CLICOLOR").getD true && terminal

namespace Report

def empty : Report :=
  ⟨[], []⟩

instance : Append Report where
  append r s := ⟨r.out ++ s.out, r.err ++ s.err⟩

/-- Several reports one after the other. -/
def concat (rs : List Report) : Report :=
  rs.foldr (· ++ ·) empty

def line (t : Text) : Report :=
  ⟨t ++ ['\n'], []⟩

/-- An indented line. -/
def detail (t : Text) : Report :=
  line ([' ', ' '] ++ t)

/-- A value behind its label. -/
def labelled (colored : Bool) (label : String) (value : Text) : Report :=
  line (Paint.green.apply colored label.toList ++ [':', ' '] ++ value)

def header (colored : Bool) (t : Text) : Report :=
  line (Paint.boldCyan.apply colored t)

def success (colored : Bool) (t : Text) : Report :=
  line (Paint.green.apply colored ['✓'] ++ ' ' :: t)

def warning (colored : Bool) (t : Text) : Report :=
  ⟨[], Paint.yellow.apply colored "Warning".toList ++ [':', ' '] ++ t ++ ['\n']⟩

def failure (colored : Bool) (t : Text) : Report :=
  ⟨[], Paint.boldRed.apply colored "error".toList ++ [':', ' '] ++ t ++ ['\n']⟩

end Report

end Prose
