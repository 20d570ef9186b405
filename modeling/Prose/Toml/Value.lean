import Prose.Text

/-!
# Values of a TOML document

Values and the tables in which they stand while a document is read. A table remembers how it came
about, for this decides what may still be added to it: a table with a header of its own is not
extended by dotted keys, and only a table that was implied by a longer header can get a header.
-/

namespace Prose.Toml

/-- A value. Floats, dates and times are kept as they are written. -/
inductive Value
  | string (text : Text)
  | integer (value : Int)
  | float (literal : Text)
  | boolean (value : Bool)
  | moment (literal : Text)
  | array (items : List Value)
  | table (entries : List (Text × Value))
  deriving Repr

/-- How a table came about: by its header, as a part of a longer header, or by a dotted key. -/
inductive Origin
  | header
  | implied
  | dotted
  deriving DecidableEq, Repr

/-- What stands under a key while a document is read. -/
inductive Item
  | value (value : Value)
  | table (origin : Origin) (entries : List (Text × Item))
  | tables (elements : List (List (Text × Item)))

abbrev Entries := List (Text × Item)

/-- A key: its last name behind the names of the tables on the way. -/
structure Key where
  path : List Text
  name : Text
  deriving DecidableEq, Repr

namespace Entries

/-- Replaces the item under a key in place, or adds it at the end. -/
def set (key : Text) (item : Item) : Entries → Entries
  | [] => [(key, item)]
  | (k, i) :: rest => if k = key then (key, item) :: rest else (k, i) :: set key item rest

/-- Works on the table that a header names, through the last element of arrays of tables. Tables
on the way that are not there yet are implied. -/
def within (f : Entries → Option Entries) : List Text → Entries → Option Entries
  | [], es => f es
  | key :: path, es =>
    match es.lookup key with
    | none => do return es.set key (.table .implied (← within f path []))
    | some (.value _) => none
    | some (.table origin sub) => do return es.set key (.table origin (← within f path sub))
    | some (.tables elements) => do
      let last ← within f path (elements.getLast?.getD [])
      return es.set key (.tables (elements.dropLast ++ [last]))

/-- Puts a value under a new key. -/
def insertNew (key : Text) (v : Value) (es : Entries) : Option Entries :=
  if (es.lookup key).isSome then none else some (es.set key (.value v))

/-- Puts a value under a dotted key. Only tables that dotted keys made can be extended. -/
def insertDotted (key : Text) (v : Value) (origin : Origin) : List Text → Entries → Option Entries
  | [], es => if origin = .dotted then insertNew key v es else none
  | k :: path, es =>
    match es.lookup k with
    | none => do return es.set k (.table .dotted (← insertDotted key v .dotted path []))
    | some (.value _) => none
    | some (.table .header _) => none
    | some (.table origin sub) => do
      return es.set k (.table origin (← insertDotted key v origin path sub))
    | some (.tables elements) => do
      let last ← insertDotted key v .header path (elements.getLast?.getD [])
      return es.set k (.tables (elements.dropLast ++ [last]))

/-- Puts a value under a key. -/
def insert (key : Key) (v : Value) (es : Entries) : Option Entries :=
  if key.path.isEmpty then insertNew key.name v es else insertDotted key.name v .header key.path es

/-- Gives a table its header. -/
def openTable (key : Text) (es : Entries) : Option Entries :=
  match es.lookup key with
  | none => some (es.set key (.table .header []))
  | some (.table .implied sub) => some (es.set key (.table .header sub))
  | _ => none

/-- Starts a new element of an array of tables. -/
def openElement (key : Text) (es : Entries) : Option Entries :=
  match es.lookup key with
  | none => some (es.set key (.tables [[]]))
  | some (.tables elements) => some (es.set key (.tables (elements ++ [[]])))
  | _ => none

mutual

/-- The value of an item when the document is complete. -/
def itemValue : Item → Value
  | .value v => v
  | .table _ entries => .table (values entries)
  | .tables elements => .array (tableValues elements)

/-- The values under the keys. -/
def values : List (Text × Item) → List (Text × Value)
  | [] => []
  | (key, item) :: rest => (key, itemValue item) :: values rest

def tableValues : List (List (Text × Item)) → List Value
  | [] => []
  | entries :: rest => .table (values entries) :: tableValues rest

end

end Entries

end Prose.Toml
