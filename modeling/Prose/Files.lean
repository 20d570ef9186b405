import Prose.Text

/-!
# Files

What the program sees of a file system: at a path there may be a file with its text, a file that
cannot be read, or a directory.
-/

namespace Prose

/-- What is found at a path. A file that cannot be read comes with the reason. -/
inductive Entry
  | file (content : Text)
  | unreadable (reason : Text)
  | directory
  deriving DecidableEq, Repr

/-- What is found at every path. -/
abbrev Files := Text → Option Entry

namespace Path

/-- The path of `name` in the directory `dir`. -/
def join (dir name : Text) : Text :=
  if dir.isEmpty || dir.getLast? = some '/' then dir ++ name else dir ++ '/' :: name

def isAbsolute (path : Text) : Bool :=
  path.head? = some '/'

/-- The names on a path. Doubled and trailing slashes do not count, and neither do single dots,
except one at the start of a relative path. -/
def names (path : Text) : List Text :=
  match Text.fields (· = '/') path with
  | [] => []
  | first :: rest =>
    let rest := rest.filter (· ≠ ['.'])
    if first = ['.'] && isAbsolute path then rest else first :: rest

/-- Do two paths name the same place step by step? -/
def agree (p q : Text) : Bool :=
  isAbsolute p = isAbsolute q && names p = names q

end Path

namespace Files

/-- The files of a list of paths; paths that agree step by step are the same. -/
def ofList (entries : List (Text × Entry)) : Files := fun path =>
  (entries.find? fun (p, _) => Path.agree p path).map (·.2)

end Files

end Prose
