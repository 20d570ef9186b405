import Prose.Toml.Scalar
import Prose.Toml.Token

/-!
# TOML documents

A document is read token by token. A state holds the tables read so far and the stage that the
current line has reached; each token leads to the next state or shows that the text is no document.
Values may stand in brackets, and the stage keeps those that are still open.
-/

namespace Prose.Toml

/-- A part of a key. -/
inductive Piece
  | name (text : Text)
  | dot
  deriving DecidableEq, Repr

namespace Piece

/-- The characters of a name without quotation marks. -/
def isBare (c : Char) : Bool :=
  c.isAlphanum || c = '_' || c = '-'

/-- The names and dots of a word. -/
def ofWord : Text → List Piece
  | [] => []
  | '.' :: rest => dot :: ofWord rest
  | c :: rest =>
    match ofWord rest with
    | name n :: pieces => name (c :: n) :: pieces
    | pieces => name [c] :: pieces

/-- Adds a token of a key; gaps between its parts do not count. -/
def push? (pieces : List Piece) : Token → Option (List Piece)
  | .gap => some pieces
  | .quoted t => some (pieces ++ [name t])
  | .word w => if w.all fun c => isBare c || c = '.' then some (pieces ++ ofWord w) else none
  | _ => none

end Piece

/-- Names and brackets nest less than eighty deep. -/
def depthLimit : Nat :=
  80

namespace Key

/-- Names with a dot between any two of them. -/
def names? : List Piece → Option (List Text)
  | [.name n] => some [n]
  | .name n :: .dot :: rest => (names? rest).map (n :: ·)
  | _ => none

def ofPieces? (pieces : List Piece) : Option Key := do
  let names ← names? pieces
  let last ← names.getLast?
  if names.length < depthLimit then some ⟨names.dropLast, last⟩ else none

end Key

/-- The tables of a document that is being read, and the names of the current header. -/
structure Draft where
  root : Entries
  header : List Text

namespace Draft

def insert (d : Draft) (key : Key) (v : Value) : Option Draft := do
  return { d with root := ← d.root.within (Entries.insert key v) d.header }

/-- Opens the table of a header, or a new element of an array of tables. -/
def openHeader (d : Draft) (many : Bool) (key : Key) : Option Draft := do
  let add := if many then Entries.openElement else Entries.openTable
  return ⟨← d.root.within (add key.name) key.path, key.path ++ [key.name]⟩

end Draft

/-- An open bracket whose next value is being read: the items of an array with the latest first, or
the entries of a table with the key of the value. -/
inductive Bracket
  | array (items : List Value)
  | table (entries : Entries) (key : Key)

/-- How far a line has been read. The stages within a value hold the key of the line and the
brackets around; the innermost bracket is given by itself where a value has ended. -/
inductive Stage
  | line
  | opened
  | header (many : Bool) (pieces : List Piece)
  | closing (pieces : List Piece)
  | key (pieces : List Piece)
  | value (key : Key)
  | item (key : Key) (around : List Bracket) (items : List Value)
  | afterItem (key : Key) (around : List Bracket) (items : List Value)
  | field (key : Key) (around : List Bracket) (entries : Entries) (pieces : List Piece)
  | afterField (key : Key) (around : List Bracket) (entries : Entries)
  | fieldValue (key : Key) (around : List Bracket) (entries : Entries) (name : Key)
  | lineRest

structure State where
  draft : Draft
  stage : Stage

namespace State

def initial : State :=
  ⟨⟨[], []⟩, .line⟩

def reach (s : State) (stage : Stage) : State :=
  { s with stage := stage }

/-- A value has ended within the brackets around it. -/
def complete (s : State) (key : Key) (v : Value) : List Bracket → Option State
  | [] => do return ⟨← s.draft.insert key v, .lineRest⟩
  | .array items :: around => some (s.reach (.afterItem key around (v :: items)))
  | .table entries name :: around => do
    return s.reach (.afterField key around (← entries.insert name v))

/-- A token where a value begins. -/
def begin (s : State) (key : Key) (around : List Bracket) : Token → Option State
  | .word w => do s.complete key (← Value.ofWord? w) around
  | .quoted t => s.complete key (.string t) around
  | .lines t => s.complete key (.string t) around
  | .mark c =>
    if depthLimit ≤ around.length + 1 then none
    else if c = '[' then some (s.reach (.item key around []))
    else if c = '\x7b' then some (s.reach (.field key around [] []))
    else none
  | _ => none

/-- A token of a header: one more part of its key, or a closing bracket. -/
def header (s : State) (many : Bool) (pieces : List Piece) (k : Token) : Option State :=
  if k = .mark ']' then
    if many then some (s.reach (.closing pieces))
    else do return ⟨← s.draft.openHeader false (← Key.ofPieces? pieces), .lineRest⟩
  else do return s.reach (.header many (← Piece.push? pieces k))

/-- A token of an array where an item may begin. -/
def item (s : State) (key : Key) (around : List Bracket) (items : List Value) (k : Token) :
    Option State :=
  if k = .gap || k = .lineEnd then some s
  else if k = .mark ']' then s.complete key (.array items.reverse) around
  else s.begin key (.array items :: around) k

/-- A token of an array behind an item. -/
def afterItem (s : State) (key : Key) (around : List Bracket) (items : List Value) (k : Token) :
    Option State :=
  if k = .gap || k = .lineEnd then some s
  else if k = .mark ']' then s.complete key (.array items.reverse) around
  else if k = .mark ',' then some (s.reach (.item key around items))
  else none

/-- A token of a table in braces where a key may begin or go on. Only the empty table may end
here. -/
def field (s : State) (key : Key) (around : List Bracket) (entries : Entries)
    (pieces : List Piece) (k : Token) : Option State :=
  if k = .mark '=' then do
    return s.reach (.fieldValue key around entries (← Key.ofPieces? pieces))
  else if k = .mark '\x7d' then
    if entries.isEmpty && pieces.isEmpty then s.complete key (.table []) around else none
  else do return s.reach (.field key around entries (← Piece.push? pieces k))

/-- A token of a table in braces behind a value. -/
def afterField (s : State) (key : Key) (around : List Bracket) (entries : Entries) (k : Token) :
    Option State :=
  if k = .gap then some s
  else if k = .mark '\x7d' then s.complete key (.table (Entries.values entries)) around
  else if k = .mark ',' then some (s.reach (.field key around entries []))
  else none

/-- The state behind one more token. -/
def step (s : State) (k : Token) : Option State :=
  match s.stage with
  | .line =>
    if k = .gap || k = .lineEnd then some s
    else if k = .mark '[' then some (s.reach .opened)
    else do return s.reach (.key (← Piece.push? [] k))
  | .opened =>
    if k = .mark '[' then some (s.reach (.header true [])) else s.header false [] k
  | .header many pieces => s.header many pieces k
  | .closing pieces =>
    if k = .mark ']' then do
      return ⟨← s.draft.openHeader true (← Key.ofPieces? pieces), .lineRest⟩
    else none
  | .key pieces =>
    if k = .mark '=' then do return s.reach (.value (← Key.ofPieces? pieces))
    else do return s.reach (.key (← Piece.push? pieces k))
  | .value key => if k = .gap then some s else s.begin key [] k
  | .item key around items => s.item key around items k
  | .afterItem key around items => s.afterItem key around items k
  | .field key around entries pieces => s.field key around entries pieces k
  | .fieldValue key around entries name =>
    if k = .gap then some s else s.begin key (.table entries name :: around) k
  | .afterField key around entries => s.afterField key around entries k
  | .lineRest =>
    if k = .gap then some s
    else if k = .lineEnd then some (s.reach .line)
    else none

/-- The entries of a document that ends here. -/
def finish (s : State) : Option (List (Text × Value)) :=
  match s.stage with
  | .line => some (Entries.values s.draft.root)
  | .lineRest => some (Entries.values s.draft.root)
  | _ => none

end State

/-- The entries of the document that the tokens spell. -/
def ofTokens? (tokens : List Token) : Option (List (Text × Value)) := do
  (← tokens.foldlM State.step State.initial).finish

/-- The entries of a document. A byte order mark in front does not count. -/
def ofText? (t : Text) : Option (List (Text × Value)) := do
  ofTokens? (← Token.ofText? (if t.head? = some '\ufeff' then t.tail else t))

end Prose.Toml
