import Prose.Pattern.Escape

/-!
# Bracketed classes

Classes in square brackets: characters, ranges, named classes and nested brackets are united, and
two such unions can be intersected or subtracted. The reader keeps the open brackets on a stack,
the innermost first.
-/

namespace Prose.Pattern

/-- How two unions in one bracket are combined. -/
inductive SetOp
  | intersection
  | difference
  | symmetricDifference

def SetOp.combine : SetOp → Class → Class → Class
  | .intersection, p, q => fun c => p c && q c
  | .difference, p, q => fun c => p c && !q c
  | .symmetricDifference, p, q => fun c => p c != q c

/-- An open bracket: what stands to the left of the last operator, and the members since then. -/
structure OpenBracket where
  negated : Bool
  left : Option (SetOp × Class)
  members : Class

namespace OpenBracket

def add (b : OpenBracket) (p : Class) : OpenBracket :=
  { b with members := b.members.union p }

/-- The set so far, with the last operator applied. -/
def combined (flags : Flags) (b : OpenBracket) : Class :=
  match b.left with
  | some (op, left) => op.combine (left.closeCase flags) (b.members.closeCase flags)
  | none => b.members

def operate (flags : Flags) (b : OpenBracket) (op : SetOp) : OpenBracket :=
  { b with left := some (op, b.combined flags), members := Class.none }

/-- The class of a closed bracket. Without Unicode a negated bracket is refused. -/
def close? (flags : Flags) (b : OpenBracket) : Option Class :=
  let set := (b.combined flags).closeCase flags
  if b.negated then (if flags.unicode then some set.negate else none) else some set

end OpenBracket

/-- The hyphens and the closing bracket that count as members right after the opening. -/
def leadingMembers (flags : Flags) (b : OpenBracket) : Nat → Text → OpenBracket × Text
  | 0, t => (b, t)
  | n + 1, t =>
    match t with
    | '-' :: rest => leadingMembers flags (b.add (.single '-')) n (skip flags rest)
    | _ => (b, t)

/-- Opens a bracket; the text starts behind it. -/
def openBracket? (flags : Flags) (t : Text) : Option (OpenBracket × Text) :=
  let t := skip flags t
  let (negated, t) :=
    match t with
    | '^' :: rest => (true, skip flags rest)
    | t => (false, t)
  let (b, rest) := leadingMembers flags ⟨negated, none, Class.none⟩ t.length t
  match t.head?, rest with
  | _, [] => none
  | some '-', rest => some (b, rest)
  | _, ']' :: rest => some (b.add (.single ']'), skip flags rest)
  | _, rest => some (b, rest)

/-- An ASCII class behind an opening bracket and a colon, such as the rest of `[:alpha:]`. -/
def asciiClass? (flags : Flags) (t : Text) : Option (Class × Text) := do
  let (negated, t) :=
    match t with
    | '^' :: rest => (true, rest)
    | t => (false, t)
  let p ← Class.ascii? (t.takeWhile (· ≠ ':'))
  match t.dropWhile (· ≠ ':') with
  | ':' :: ']' :: rest =>
    let p := p.closeCase flags
    if negated then (if flags.unicode then some (p.negate, rest) else none) else some (p, rest)
  | _ => none

/-- One member of a bracket. -/
def bracketAtom (flags : Flags) : Text → Option (Atom × Text)
  | [] => none
  | '\\' :: rest => escape flags rest
  | c :: rest => some (.literal c, rest)

/-- A member alone: a character or a named class, no assertion. -/
def Atom.member? : Atom → Option Class
  | .literal c => some (.single c)
  | .set p => some p
  | .look _ => none

/-- A member or a range of characters. -/
def bracketItem (flags : Flags) (t : Text) : Option (Class × Text) := do
  let (a, rest) ← bracketAtom flags t
  match skip flags rest with
  | '-' :: rest' =>
    match skip flags rest' with
    | ']' :: _ => return (← a.member?, '-' :: rest')
    | '-' :: _ => return (← a.member?, '-' :: rest')
    | rest'' =>
      match a, ← bracketAtom flags rest'' with
      | .literal first, (.literal last, rest) =>
        if first ≤ last then some (.range first last, rest) else none
      | _, _ => none
  | rest => return (← a.member?, rest)

/-- Reads to the end of the outermost open bracket. -/
def bracketLoop (flags : Flags) (current : OpenBracket) (outer : List OpenBracket) :
    Nat → Text → Option (Class × Text)
  | 0, _ => none
  | n + 1, t =>
    let nested (rest : Text) : Option (Class × Text) := do
      let (b, rest) ← openBracket? flags rest
      bracketLoop flags b (current :: outer) n rest
    match skip flags t with
    | [] => none
    | '[' :: ':' :: rest =>
      match asciiClass? flags rest with
      | some (p, rest) => bracketLoop flags (current.add p) outer n rest
      | none => nested (':' :: rest)
    | '[' :: rest => nested rest
    | ']' :: rest => do
      let p ← current.close? flags
      match outer with
      | [] => return (p, rest)
      | b :: outer => bracketLoop flags (b.add p) outer n rest
    | '&' :: '&' :: rest => bracketLoop flags (current.operate flags .intersection) outer n rest
    | '-' :: '-' :: rest => bracketLoop flags (current.operate flags .difference) outer n rest
    | '~' :: '~' :: rest =>
      bracketLoop flags (current.operate flags .symmetricDifference) outer n rest
    | t => do
      let (p, rest) ← bracketItem flags t
      bracketLoop flags (current.add p) outer n rest

/-- A bracketed class; the text starts behind the opening bracket. -/
def bracket (flags : Flags) (t : Text) : Option (Class × Text) := do
  let (b, rest) ← openBracket? flags t
  bracketLoop flags b [] (rest.length + 1) rest

end Prose.Pattern
