import Prose.Tree.Node

/-!
# Words and lexemes

A word starts with a word character, a bracket or an apostrophe and goes on with those and hyphens.
A lexeme is read as its words in order; when it is one character longer than its last word, its last
character follows as a sign. Everything else in it is dropped.
-/

namespace Prose.Parse

/-- Can `c` be the first character of a word? -/
def startsWord (c : Char) : Bool :=
  isWordChar c || c = ')' || c = '(' || c = '\''

/-- Can `c` be a later character of a word? -/
def continuesWord (c : Char) : Bool :=
  startsWord c || c = '-'

/-- The words of a text: from each place where a word can start, as long as it goes on. -/
def words : Text → List Text
  | [] => []
  | c :: rest =>
    if startsWord c then (c :: rest.takeWhile continuesWord) :: words (rest.dropWhile continuesWord)
    else words rest
termination_by t => t.length
decreasing_by
  · have h := (List.dropWhile_sublist continuesWord (l := rest)).length_le
    simp only [List.length_cons]
    omega
  · simp

/-- One leaf for each character. -/
def word (t : Text) : Node :=
  .composite .word (t.map fun c => .leaf (.classify c))

def lexeme (t : Text) : Node :=
  let parts := words t
  let last := (parts.getLast?.getD []).length
  .composite .lexeme
    (parts.map word ++ if t.length - last = 1 then t.getLast?.toList.map Node.sign else [])

end Prose.Parse
