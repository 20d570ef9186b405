import Prose.Text

/-!
# Patterns

Search patterns and the places where their matches end. `Pattern.ends` lists all ends of the matches
that start at a place, in the order of preference: the first alternative before the second, and more
repetitions before fewer unless the repetition is reluctant. A place is listed at its first
occurrence only, so the lists stay short, and the match that counts is the head of the list.
-/

namespace Prose

/-- A place in a text: how many characters stand before it, the last of them, and what follows. -/
structure Place where
  index : Nat
  last : Option Char
  rest : Text

namespace Place

def start (t : Text) : Place :=
  ⟨0, none, t⟩

/-- The place behind the next character `c`, which `rest` follows. -/
def after (p : Place) (c : Char) (rest : Text) : Place :=
  ⟨p.index + 1, some c, rest⟩

/-- Left-biased union: the places of `ps`, then those of `qs` that are not among them. -/
def union (ps qs : List Place) : List Place :=
  match qs with
  | [] => ps
  | _ => ps ++ qs.filter fun q => ps.all (·.index ≠ q.index)

/-- The union of the images in order. -/
def unionMap (f : Place → List Place) (ps : List Place) : List Place :=
  ps.foldr (fun p qs => union (f p) qs) []

end Place

/-- A pattern. An assertion sees the character before and the character after the place. -/
inductive Pattern
  | empty
  | one (accepts : Char → Bool)
  | look (holds : Option Char → Option Char → Bool)
  | cat (p q : Pattern)
  | alt (p q : Pattern)
  | times (p : Pattern) (min : Nat) (max : Option Nat) (greedy : Bool)

namespace Pattern

open Place (union unionMap)

/-- Either more rounds or none more, whichever is preferred. -/
def prefer (greedy : Bool) (more : List Place) (p : Place) : List Place :=
  if greedy then union more [p] else union [p] more

/-- The ends after exactly `n` rounds of `step`. -/
def power (step : Place → List Place) : Nat → Place → List Place
  | 0, p => [p]
  | n + 1, p => unionMap (power step n) (step p)

/-- The ends after at most `n` rounds of `step`. -/
def upTo (step : Place → List Place) (greedy : Bool) : Nat → Place → List Place
  | 0, p => [p]
  | n + 1, p => prefer greedy (unionMap (upTo step greedy n) (step p)) p

/-- The ends behind a round that has ended at a place, with any number of further rounds. Rounds
that consume nothing do not count; `n` is at least the number of characters left. -/
def moreRounds (step : Place → List Place) (greedy : Bool) : Nat → Place → List Place
  | 0, p => [p]
  | n + 1, p =>
    let more := unionMap (fun q => if q.index = p.index then [] else moreRounds step greedy n q)
    prefer greedy (more (step p)) p

/-- The ends after one or more rounds. A first round that consumes nothing is the only one. -/
def someRounds (step : Place → List Place) (greedy : Bool) (p : Place) : List Place :=
  unionMap (fun q => if q.index = p.index then [q] else moreRounds step greedy q.rest.length q)
    (step p)

/-- The ends of the matches that start at a place, the preferred ones first. -/
def ends : Pattern → Place → List Place
  | .empty, p => [p]
  | .one accepts, p =>
    match p.rest with
    | [] => []
    | c :: rest => if accepts c then [p.after c rest] else []
  | .look holds, p => if holds p.last p.rest.head? then [p] else []
  | .cat r s, p => unionMap (ends s) (ends r p)
  | .alt r s, p => union (ends r p) (ends s p)
  | .times r 0 none greedy, p => prefer greedy (someRounds (ends r) greedy p) p
  | .times r (min + 1) none greedy, p =>
    unionMap (someRounds (ends r) greedy) (power (ends r) min p)
  | .times r min (some max) greedy, p =>
    unionMap (upTo (ends r) greedy (max - min)) (power (ends r) min p)

/-- The end of the preferred match that starts at a place. -/
def matchEnd? (r : Pattern) (p : Place) : Option Place :=
  (r.ends p).head?

/-- The pieces between matches from a place on. Right behind a match there is no empty match. -/
def pieces (r : Pattern) (p : Place) (behindMatch : Bool) : List Text :=
  match _h : p.rest with
  | [] => if (r.matchEnd? p).isSome && !behindMatch then [[], []] else [[]]
  | c :: rest =>
    match r.matchEnd? p with
    | none => Text.consFirst c (pieces r (p.after c rest) false)
    | some q =>
      if q.rest.length < p.rest.length then [] :: pieces r q true
      else if behindMatch then Text.consFirst c (pieces r (p.after c rest) false)
      else [] :: Text.consFirst c (pieces r (p.after c rest) false)
termination_by p.rest.length
decreasing_by
  all_goals simp_all [Place.after]

/-- Cuts a text at all matches, from left to right. -/
def split (r : Pattern) (t : Text) : List Text :=
  r.pieces (Place.start t) false

/-- The number of single-character tests when all counted repetitions are written out. -/
def weight : Pattern → Nat
  | .empty => 0
  | .one _ => 1
  | .look _ => 1
  | .cat r s => weight r + weight s
  | .alt r s => weight r + weight s + 1
  | .times r min max _ => (weight r + 1) * (max.getD (min + 1))

end Pattern

end Prose
