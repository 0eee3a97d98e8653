import ClassDiagram.Files.Path

/-!
# Locations of source units

A source unit lives at a path or, if it is held in memory, under a number.
Locations are compared by what they denote: paths part by part and before all
numbers, numbers by their value.
-/

namespace ClassDiagram

/-- Where a source unit lives. -/
inductive Location
  /-- A path, as it was given. -/
  | path (text : String)
  /-- A position among units in memory. -/
  | index (number : Nat)

namespace Location

/-- The location in messages. -/
def toString : Location → String
  | path text => text
  | index number => "#" ++ Nat.repr number

instance : ToString Location := ⟨toString⟩

/-- What locations are compared by. -/
def key : Location → List (List Nat)
  | path text => [0] :: (Files.components text.toList).map Files.Component.key
  | index number => [[1], [number]]

/-- Whether two locations denote the same place. -/
def same (a b : Location) : Bool :=
  a.key == b.key

/-- Whether the first location does not come after the second. -/
def le (a b : Location) : Bool :=
  !decide (b.key < a.key)

/-- Locations in their order; those that denote the same place stay as they stood. -/
def sort (locations : List Location) : List Location :=
  locations.mergeSort le

end Location

end ClassDiagram
