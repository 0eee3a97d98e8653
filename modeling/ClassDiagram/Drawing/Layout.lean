import ClassDiagram.Graph.Read

/-!
# Laid-out diagrams

What a layout engine answers: a place and size for every box, and a route for
every edge as sections of straight lines.  An engine may leave out the style of
an edge and whatever has a natural default.
-/

namespace ClassDiagram

open Json

/-- A point of the plane. -/
structure Point where
  x : Float
  y : Float

/-- A box with its place. -/
structure PlacedNode where
  id : String
  x : Float := 0
  y : Float := 0
  width : Float
  height : Float

/-- A part of an edge's route. -/
structure RouteSection where
  start : Point
  bends : List Point := []
  stop : Point

/-- An edge with its route. -/
structure RoutedEdge where
  id : String
  style : Option RelationshipKind := none
  sections : List RouteSection := []

/-- The answer of a layout engine. -/
structure DiagramLayout where
  children : List PlacedNode := []
  edges : List RoutedEdge := []

/-! ## Reading -/

/-- How a point is read. -/
def Point.shape : Shape Point where
  name := "Point"
  blank := ⟨0, 0⟩
  fields :=
    [{ key := "x", read := fun point => return { point with x := ← readFloat } },
     { key := "y", read := fun point => return { point with y := ← readFloat } }]

/-- How a box is read. -/
def PlacedNode.shape : Shape PlacedNode where
  name := "PositionedNode"
  blank := ⟨"", 0, 0, 0, 0⟩
  fields :=
    [{ key := "id", read := fun node => return { node with id := ← readString } },
     { key := "x", isOptional := true
       read := fun node => return { node with x := ← readFloat } },
     { key := "y", isOptional := true
       read := fun node => return { node with y := ← readFloat } },
     { key := "width", read := fun node => return { node with width := ← readFloat } },
     { key := "height", read := fun node => return { node with height := ← readFloat } }]

/-- How a section is read. -/
def RouteSection.shape : Shape RouteSection where
  name := "EdgeSection"
  blank := ⟨⟨0, 0⟩, [], ⟨0, 0⟩⟩
  fields :=
    [{ key := "startPoint"
       read := fun route => return { route with start := ← Point.shape.read } },
     { key := "bendPoints", isOptional := true
       read := fun route => return { route with bends := ← readList Point.shape.read } },
     { key := "endPoint"
       read := fun route => return { route with stop := ← Point.shape.read } }]

/-- How an edge is read. -/
def RoutedEdge.shape : Shape RoutedEdge where
  name := "PositionedEdge"
  blank := { id := "" }
  fields :=
    [{ key := "id", read := fun edge => return { edge with id := ← readString } },
     { key := "style", isOptional := true
       read := fun edge => return { edge with style := ← readOption RelationshipKind.reader } },
     { key := "sections", isOptional := true
       read := fun edge => return { edge with sections := ← readList RouteSection.shape.read } }]

/-- How a layout is read. -/
def DiagramLayout.shape : Shape DiagramLayout where
  name := "LaidOutGraph"
  blank := {}
  fields :=
    [{ key := "children", isOptional := true
       read := fun layout => return { layout with children := ← readList PlacedNode.shape.read } },
     { key := "edges", isOptional := true
       read := fun layout => return { layout with edges := ← readList RoutedEdge.shape.read } }]

/-- The layout that a JSON text holds. -/
def DiagramLayout.ofJson (text : String) : Except Failure DiagramLayout :=
  readWhole shape.read text

end ClassDiagram
