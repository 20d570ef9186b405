import Prose.Settings.Environment
import Prose.Text.Property.Alphanumeric

/-!
# Expansion of paths

A path may name variables with a dollar sign, and a tilde at its start is the home directory. A path
that names an unknown variable stays as it is.
-/

namespace Prose.Environment

/-- The characters of a variable's name without braces. -/
def isNamePart (c : Char) : Bool :=
  c = '_' || Property.alphanumeric.contains c

/-- The parts before and behind the first `:-`. -/
def splitFallback? : Text → Option (Text × Text)
  | [] => none
  | ':' :: '-' :: rest => some ([], rest)
  | c :: rest => (splitFallback? rest).map fun (name, fallback) => (c :: name, fallback)

/-- The text for what stands in braces: a name, or a name with the text to use when the variable is
unknown or empty. An empty variable without such a text stays as it is written. -/
def braced? (env : Environment) (inner : Text) : Option Text :=
  match splitFallback? inner with
  | some (c :: name, fallback) =>
    match env.lookup (c :: name) with
    | some (d :: value) => some (d :: value)
    | _ => some fallback
  | _ =>
    match env.lookup inner with
    | none => none
    | some [] => some (['$', '\x7b'] ++ inner ++ ['\x7d'])
    | some value => some value

/-- The text with the values of its variables, when all of them are known. Two dollar signs stand
for one. -/
def substitute? (env : Environment) (t : Text) : Option Text :=
  match t with
  | [] => some []
  | '$' :: '$' :: rest => (substitute? env rest).map ('$' :: ·)
  | '$' :: '\x7b' :: rest =>
    if rest.contains '\x7d' then do
      let value ← braced? env (rest.takeWhile (· ≠ '\x7d'))
      return value ++ (← substitute? env (rest.dropWhile (· ≠ '\x7d')).tail)
    else (substitute? env rest).map (['$', '\x7b'] ++ ·)
  | '$' :: c :: rest =>
    if isNamePart c then do
      let value ← env.lookup (c :: rest.takeWhile isNamePart)
      return value ++ (← substitute? env (rest.dropWhile isNamePart))
    else (substitute? env (c :: rest)).map ('$' :: ·)
  | c :: rest => (substitute? env rest).map (c :: ·)
termination_by t.length
decreasing_by
  · simp only [List.length_cons]
    omega
  · have := (List.dropWhile_sublist (· ≠ '\x7d') (l := rest)).length_le
    simp only [List.length_tail, List.length_cons]
    omega
  · simp only [List.length_cons]
    omega
  · have := (List.dropWhile_sublist isNamePart (l := rest)).length_le
    simp only [List.length_cons]
    omega
  · simp
  · simp

/-- The home directory: the one that the environment names, and the recorded one when it names none
or an empty one. -/
def home? (env : Environment) (recorded : Option Text) : Option Text :=
  (env.lookup "HOME".toList).filter (!·.isEmpty) <|> recorded

/-- Writes the home directory for a tilde that is the whole first part of a path. -/
def expandHome (home : Option Text) (t : Text) : Text :=
  match t with
  | '~' :: rest =>
    if rest.isEmpty || rest.head? = some '/' then
      match home with
      | some home => home ++ rest
      | none => t
    else t
  | _ => t

/-- A path with its variables and its home directory written out. A tilde that a variable brought
to the start is no home directory. -/
def expand (env : Environment) (home : Option Text) (path : Text) : Text :=
  match substitute? env path with
  | none => path
  | some t =>
    if path.head? ≠ some '~' && t.head? = some '~' then t else expandHome home t

end Prose.Environment
