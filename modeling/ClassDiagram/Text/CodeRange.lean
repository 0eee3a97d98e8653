/-!
# Ranges of code points

Properties of characters are given as finite lists of inclusive ranges of code
points.  This module fixes that representation and membership in it; the
tables themselves live in the modules named for the property they describe.
-/

namespace ClassDiagram.Text

/-- An inclusive range of code points. -/
structure CodeRange where
  /-- The least code point of the range. -/
  first : Nat
  /-- The greatest code point of the range. -/
  last : Nat
deriving DecidableEq, Repr

/-- Whether a character lies in the range. -/
def CodeRange.contains (r : CodeRange) (c : Char) : Bool :=
  decide (r.first ≤ c.toNat) && decide (c.toNat ≤ r.last)

/-- Ranges read off a flat list of their ends: first, last, first, last, … -/
def CodeRange.pairUp : List Nat → List CodeRange
  | first :: last :: more => ⟨first, last⟩ :: pairUp more
  | _ => []

/-- Whether a character lies in one of the ranges. -/
def inRanges (rs : List CodeRange) (c : Char) : Bool :=
  rs.any (·.contains c)

@[simp] theorem inRanges_nil (c : Char) : inRanges [] c = false := rfl

@[simp] theorem inRanges_cons (r : CodeRange) (rs : List CodeRange) (c : Char) :
    inRanges (r :: rs) c = (r.contains c || inRanges rs c) := rfl

end ClassDiagram.Text
