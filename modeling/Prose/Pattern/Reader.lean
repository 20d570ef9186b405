import Prose.Pattern.Bracket

/-!
# Reading patterns

The written form of patterns: literals, escapes, classes, assertions, groups, alternatives, greedy
and reluctant repetitions, and switches that hold up to the end of their group. Look-around and
references to groups are refused. A pattern that is too large when its repetitions are written out
is refused too.

This is the part of the common pattern language that `Host.builtin` knows, so its limits bind no
other host. Classes of Unicode properties are left out. Groups may be nested to any depth, where
other readers stop at some depth, and the size of a pattern is only estimated (`weightLimit`).
-/

namespace Prose.Pattern

/-- An open group: its finished alternatives and the items of the current one, both with the latest
first, and the switches that come back at its end. A switch item cannot be repeated. -/
structure OpenGroup where
  alternatives : List Pattern
  items : List (Option Pattern)
  saved : Flags

namespace OpenGroup

def opened (flags : Flags) : OpenGroup :=
  ⟨[], [], flags⟩

def push (g : OpenGroup) (r : Pattern) : OpenGroup :=
  { g with items := some r :: g.items }

def pushSwitch (g : OpenGroup) : OpenGroup :=
  { g with items := none :: g.items }

/-- The items of the current alternative in a row. -/
def row (g : OpenGroup) : Pattern :=
  match g.items.reduceOption with
  | [] => .empty
  | r :: rs => rs.foldl (fun later r => .cat r later) r

def nextAlternative (g : OpenGroup) : OpenGroup :=
  { g with alternatives := g.row :: g.alternatives, items := [] }

def closed (g : OpenGroup) : Pattern :=
  g.alternatives.foldl (fun later r => .alt r later) g.row

/-- Repeats the last item. -/
def repeatLast? (g : OpenGroup) (min : Nat) (max : Option Nat) (greedy : Bool) :
    Option OpenGroup :=
  match g.items with
  | some r :: items => some { g with items := some (.times r min max greedy) :: items }
  | _ => none

end OpenGroup

/-- A count of a repetition, with white space around it. -/
def count (flags : Flags) (t : Text) : Option (Nat × Text) :=
  let t := t.dropWhile isSpace
  let isPart (c : Char) : Bool := c.isDigit || (flags.verbose && isSpace c)
  let digits := (t.takeWhile isPart).filter Char.isDigit
  if digits.isEmpty || !(t.head?.any Char.isDigit) then none
  else
    let n := digits.foldl (fun n d => 10 * n + (d.toNat - 48)) 0
    if n < 1 <<< 32 then some (n, (t.dropWhile isPart).dropWhile isSpace) else none

/-- The bounds of a counted repetition; the text starts behind the opening brace. -/
def bounds (flags : Flags) (t : Text) : Option ((Nat × Option Nat) × Text) := do
  let (min, rest) ← count flags (skip flags t)
  let (max, rest) ←
    match rest with
    | ',' :: rest =>
      match skip flags rest with
      | '\x7d' :: rest => some (none, '\x7d' :: rest)
      | rest => (count flags rest).map fun (n, rest) => (some n, rest)
    | rest => some (some min, rest)
  match rest with
  | '\x7d' :: rest => if max.all (min ≤ ·) then some ((min, max), skip flags rest) else none
  | _ => none

/-- A question mark behind a repetition makes it reluctant. -/
def greed (flags : Flags) : Text → Bool × Text
  | '?' :: rest => (flags.swapGreed, rest)
  | rest => (!flags.swapGreed, rest)

def Flags.set (flags : Flags) (switch : Char) (on : Bool) : Option Flags :=
  match switch with
  | 'i' => some { flags with ignoreCase := on }
  | 'm' => some { flags with multiLine := on }
  | 's' => some { flags with dotAll := on }
  | 'U' => some { flags with swapGreed := on }
  | 'u' => some { flags with unicode := on }
  | 'R' => some { flags with crlf := on }
  | 'x' => some { flags with verbose := on }
  | _ => none

/-- Switches up to a colon or a closing bracket. Each is written once, and one minus sign at most
turns the following ones off. -/
def switches (flags : Flags) (on : Bool) (seen : Text) : Text → Option (Flags × Text)
  | [] => none
  | c :: rest =>
    if c = ':' || c = ')' then
      if seen.head? = some '-' then none else some (flags, c :: rest)
    else if seen.contains c then none
    else if c = '-' then switches flags false (c :: seen) rest
    else
      match flags.set c on with
      | some flags => switches flags on (c :: seen) rest
      | none => none

/-- How a group begins. -/
inductive GroupStart
  | switch (flags : Flags)
  | group (flags : Flags) (name : Option Text)

/-- A group name up to its closing angle bracket. -/
def groupName (t : Text) : Option (Text × Text) :=
  let isLetter (c : Char) : Bool :=
    c = '_' || (Property.alphanumeric.contains c && !Property.decimalDigit.contains c)
  let isPart (c : Char) : Bool :=
    c = '_' || c = '.' || c = '[' || c = ']' || Property.alphanumeric.contains c
  match t.takeWhile isPart, t.dropWhile isPart with
  | c :: cs, '>' :: rest => if isLetter c then some (c :: cs, rest) else none
  | _, _ => none

/-- Reads what follows an opening bracket. -/
def groupStart (flags : Flags) (t : Text) : Option (GroupStart × Text) :=
  let named (t : Text) : Option (GroupStart × Text) :=
    (groupName t).map fun (name, rest) => (.group flags (some name), rest)
  match skip flags t with
  | '?' :: '=' :: _ => none
  | '?' :: '!' :: _ => none
  | '?' :: '<' :: '=' :: _ => none
  | '?' :: '<' :: '!' :: _ => none
  | '?' :: '<' :: rest => named rest
  | '?' :: 'P' :: '<' :: rest => named rest
  | '?' :: rest => do
    match ← switches flags true [] rest with
    | (set, ')' :: rest') =>
      if rest.head? = some ')' then none else return (.switch set, rest')
    | (set, rest') => return (.group set none, rest'.drop 1)
  | t => some (.group flags none, t)

/-- Any character but a line end, or any at all; without Unicode it is refused. -/
def dot? (flags : Flags) : Option Pattern :=
  if !flags.unicode then none
  else if flags.dotAll then some (.one fun _ => true)
  else if flags.crlf then some (.one fun c => c ≠ '\n' && c ≠ '\r')
  else some (.one (· ≠ '\n'))

/-- A literal character, with its case variants where the switches ask for it. -/
def literal (flags : Flags) (c : Char) : Pattern :=
  .one ((Class.single c).closeCase flags)

def Atom.pattern (flags : Flags) : Atom → Pattern
  | .literal c => Pattern.literal flags c
  | .set accepts => .one accepts
  | .look holds => .look holds

/-- Reads a pattern with the current group, the groups around it and the names in use. -/
def readLoop (flags : Flags) (current : OpenGroup) (outer : List OpenGroup) (names : List Text) :
    Nat → Text → Option Pattern
  | 0, _ => none
  | n + 1, t =>
    let repeated (min : Nat) (max : Option Nat) (rest : Text) : Option Pattern := do
      let (greedy, rest) := greed flags rest
      readLoop flags (← current.repeatLast? min max greedy) outer names n rest
    match skip flags t with
    | [] => if outer.isEmpty then some current.closed else none
    | '(' :: rest => do
      match ← groupStart flags rest with
      | (.switch set, rest) => readLoop set current.pushSwitch outer names n rest
      | (.group set none, rest) =>
        readLoop set (.opened flags) (current :: outer) names n rest
      | (.group set (some name), rest) =>
        if names.contains name then none
        else readLoop set (.opened flags) (current :: outer) (name :: names) n rest
    | ')' :: rest =>
      match outer with
      | [] => none
      | g :: outer => readLoop current.saved (g.push current.closed) outer names n rest
    | '|' :: rest => readLoop flags current.nextAlternative outer names n rest
    | '[' :: rest => do
      let (accepts, rest) ← bracket flags rest
      readLoop flags (current.push (.one accepts)) outer names n rest
    | '?' :: rest => repeated 0 (some 1) rest
    | '*' :: rest => repeated 0 none rest
    | '+' :: rest => repeated 1 none rest
    | '\x7b' :: rest => do
      let ((min, max), rest) ← bounds flags rest
      repeated min max rest
    | '.' :: rest => do
      readLoop flags (current.push (← dot? flags)) outer names n rest
    | '^' :: rest =>
      let a := if flags.multiLine then Assertion.lineStart flags.crlf else Assertion.textStart
      readLoop flags (current.push (.look a)) outer names n rest
    | '$' :: rest =>
      let a := if flags.multiLine then Assertion.lineEnd flags.crlf else Assertion.textEnd
      readLoop flags (current.push (.look a)) outer names n rest
    | '\\' :: rest => do
      let (a, rest) ← escape flags rest
      readLoop flags (current.push (a.pattern flags)) outer names n rest
    | c :: rest => readLoop flags (current.push (literal flags c)) outer names n rest

/-- The largest weight of a pattern: ten mebibytes, at 32 bytes for each single-character test. A
class of many ranges takes more than that when it is compiled, and here it counts like any other. -/
def weightLimit : Nat :=
  (10 <<< 20) / 32

/-- Reads a pattern. -/
def ofText? (t : Text) : Option Pattern := do
  let r ← readLoop .initial (.opened .initial) [] [] (t.length + 1) t
  if r.weight ≤ weightLimit then some r else none

end Prose.Pattern
