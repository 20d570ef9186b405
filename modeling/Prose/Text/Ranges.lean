import Prose.Text

/-!
# Tables of characters

Properties of characters are tables of ranges of code points, and mappings of characters are tables
of series: each series runs from a first to a last code point in a fixed step and moves all of them
by one distance.
-/

namespace Prose

/-- Ranges of code points, both ends included. -/
abbrev Ranges := List (Nat × Nat)

def Ranges.contains (rs : Ranges) (c : Char) : Bool :=
  rs.any fun (first, last) => first ≤ c.toNat && c.toNat ≤ last

/-- Every `step`-th code point from `first` to `last`, moved by one distance. -/
structure Series where
  first : Nat
  last : Nat
  step : Nat
  distance : Int

def Series.covers (s : Series) (n : Nat) : Bool :=
  s.first ≤ n && n ≤ s.last && (n - s.first) % s.step = 0

abbrev CharMap := List Series

namespace CharMap

/-- The image of `c`, which is `c` itself outside the table. -/
def apply (m : CharMap) (c : Char) : Char :=
  match m.find? (·.covers c.toNat) with
  | some s => Char.ofNat ((c.toNat : Int) + s.distance).toNat
  | none => c

/-- The characters of the table that are moved to `c`. -/
def preimages (m : CharMap) (c : Char) : List Char :=
  m.filterMap fun s =>
    let n := ((c.toNat : Int) - s.distance).toNat
    if s.covers n then some (Char.ofNat n) else none

end CharMap

end Prose
