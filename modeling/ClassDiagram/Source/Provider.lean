import ClassDiagram.Event
import ClassDiagram.Source.Error

/-!
# Providers of source units

A provider says which units there are, in the order in which they are to be
scanned, and reads each of them.
-/

namespace ClassDiagram

/-- A collection of source units. -/
structure Provider where
  /-- The locations of the units, in order. -/
  locate : Except SourceError (List Location)
  /-- The text of the unit at a location. -/
  read : Location → Except SourceError String
  /-- What is worth noting once the units are located. -/
  noteworthy : List Location → List Event := fun _ => []

/-- The events of locating the units. -/
def Provider.locateEvents (p : Provider) : List Event :=
  match p.locate with
  | .ok locations => p.noteworthy locations
  | .error _ => []

/-! ## Units in memory -/

/-- Texts held in memory; a missing text stands for a unit that cannot be read. -/
structure MemorySources where
  /-- The units, by number. -/
  units : List (Option String) := []

namespace MemorySources

/-- The locations of the units. -/
def locations (m : MemorySources) : List Location :=
  (List.range m.units.length).map Location.index

/-- The text of the unit at a location. -/
def read (m : MemorySources) (location : Location) : Except SourceError String :=
  match location with
  | .path _ => .error (.notInMemory location)
  | .index number =>
      match m.units[number]? with
      | some (some text) => .ok text
      | _ => .error (.unreadable location)

/-- The units as a provider. -/
def provider (m : MemorySources) : Provider where
  locate := .ok m.locations
  read := m.read

end MemorySources

/-- A provider whose units cannot be enumerated for the given reason. -/
def Provider.refusing (p : Provider) (reason : String) : Provider :=
  { p with locate := .error (.refused reason) }

end ClassDiagram
