import Prose.Text.Decimal
import Prose.Text.Quoted

/-!
# Text trees

A text is a tree: a document of paragraphs, a paragraph of sentences, a sentence of lexemes, a
lexeme of words and at most one sign, a word of letters and signs. The type fixes only what is a
leaf; which levels stand below which is a property of the trees that the parser builds.
-/

namespace Prose

/-- The levels of nodes with children. -/
inductive Level
  | document
  | paragraph
  | sentence
  | lexeme
  | word
  deriving DecidableEq, Repr

inductive Kind
  | composite (level : Level)
  | sign
  | letter
  deriving DecidableEq, Repr

def Level.name : Level → Text
  | .document => "document".toList
  | .paragraph => "paragraph".toList
  | .sentence => "sentence".toList
  | .lexeme => "lexeme".toList
  | .word => "word".toList

def Kind.name : Kind → Text
  | .composite level => level.name
  | .sign => "sign".toList
  | .letter => "letter".toList

/-- One character of the text. -/
inductive Leaf
  | sign (c : Char)
  | letter (c : Char)
  deriving DecidableEq, Inhabited, Repr

namespace Leaf

/-- Word characters are letters, all others are signs. -/
def classify (c : Char) : Leaf :=
  if isWordChar c then .letter c else .sign c

def symbol : Leaf → Char
  | .sign c => c
  | .letter c => c

def kind : Leaf → Kind
  | .sign _ => .sign
  | .letter _ => .letter

@[simp] theorem symbol_classify (c : Char) : (classify c).symbol = c := by
  unfold classify
  split <;> rfl

end Leaf

inductive Node
  | leaf (leaf : Leaf)
  | composite (level : Level) (children : List Node)
  deriving Inhabited, Repr

namespace Node

/-- Induction over a tree with one hypothesis for all children. -/
theorem induction {motive : Node → Prop} (leaf : ∀ l, motive (.leaf l))
    (composite : ∀ level children, (∀ c ∈ children, motive c) → motive (.composite level children))
    (n : Node) : motive n :=
  n.rec (motive_1 := motive) (motive_2 := fun cs => ∀ c ∈ cs, motive c) leaf composite
    (fun _ h => nomatch h)
    (fun _ _ hHead hTail => List.forall_mem_cons.2 ⟨hHead, hTail⟩)

mutual

def decEq : (a b : Node) → Decidable (a = b)
  | .leaf l, .leaf k =>
    if h : l = k then isTrue (congrArg leaf h) else isFalse fun e => h (leaf.inj e)
  | .leaf _, .composite _ _ => isFalse nofun
  | .composite _ _, .leaf _ => isFalse nofun
  | .composite p as, .composite q bs =>
    if h : p = q then
      match decEqAll as bs with
      | isTrue e => isTrue (h ▸ e ▸ rfl)
      | isFalse e => isFalse fun c => e (composite.inj c).2
    else isFalse fun c => h (composite.inj c).1

def decEqAll : (as bs : List Node) → Decidable (as = bs)
  | [], [] => isTrue rfl
  | [], _ :: _ => isFalse nofun
  | _ :: _, [] => isFalse nofun
  | a :: as, b :: bs =>
    match decEq a b with
    | isFalse e => isFalse fun c => e (List.cons.inj c).1
    | isTrue h =>
      match decEqAll as bs with
      | isTrue e => isTrue (h ▸ e ▸ rfl)
      | isFalse e => isFalse fun c => e (List.cons.inj c).2

end

instance : DecidableEq Node := decEq

/-- Why an operation on a node is refused. -/
inductive Error
  | unsupported (kind : Kind)
  | indexOutOfRange (index count : Nat)
  | invalidLetter (c : Char)
  deriving DecidableEq, Repr

def Error.message : Error → Text
  | .unsupported kind =>
    "unsupported operation on ".toList ++ kind.name ++ " node: add_component".toList
  | .indexOutOfRange index count =>
    "index ".toList ++ Decimal.ofNat index ++ " out of range for node with ".toList
      ++ Decimal.ofNat count ++ " children".toList
  | .invalidLetter c => "not a word character: ".toList ++ Quoted.char c

/-- A letter leaf; only word characters are letters. -/
def letter (c : Char) : Except Error Node :=
  if isWordChar c then .ok (.leaf (.letter c)) else .error (.invalidLetter c)

/-- A sign leaf; any character can be a sign. -/
def sign (c : Char) : Node :=
  .leaf (.sign c)

def kind : Node → Kind
  | .leaf l => l.kind
  | .composite level _ => .composite level

def isWord (n : Node) : Bool :=
  n.kind = .composite .word

/-- The children in order; a leaf has none. -/
def children : Node → List Node
  | .leaf _ => []
  | .composite _ cs => cs

def childCount (n : Node) : Nat :=
  n.children.length

/-- The character of a leaf. -/
def symbol? : Node → Option Char
  | .leaf l => some l.symbol
  | .composite _ _ => none

/-- The number of letters among the children. -/
def letterCount (n : Node) : Nat :=
  n.children.countP (·.kind = .letter)

/-- The node with one more child at the end. -/
def add (n child : Node) : Except Error Node :=
  match n with
  | .leaf l => .error (.unsupported l.kind)
  | .composite level cs => .ok (.composite level (cs ++ [child]))

/-- The child at a position. -/
def get (n : Node) (index : Nat) : Except Error Node :=
  match n.children[index]? with
  | some child => .ok child
  | none => .error (.indexOutOfRange index n.childCount)

mutual

/-- The characters of all leaves in order, with nothing between them. -/
def render : Node → Text
  | .leaf l => [l.symbol]
  | .composite _ cs => renderAll cs

def renderAll : List Node → Text
  | [] => []
  | c :: cs => render c ++ renderAll cs

end

mutual

/-- The number of leaves that hold the character `symbol`. -/
def count (symbol : Char) : Node → Nat
  | .leaf l => if l.symbol = symbol then 1 else 0
  | .composite _ cs => countAll symbol cs

def countAll (symbol : Char) : List Node → Nat
  | [] => 0
  | c :: cs => count symbol c + countAll symbol cs

end

theorem renderAll_eq_flatMap (cs : List Node) : renderAll cs = cs.flatMap render := by
  induction cs with
  | nil => rfl
  | cons c cs ih => simp [renderAll, ih]

end Node

end Prose
