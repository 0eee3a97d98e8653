import ClassDiagram.Decimal.Style
import ClassDiagram.Drawing.Layout

/-!
# Drawings

A laid-out diagram as shapes to draw: a rounded box with a centred label for
every class, and a line for every section of an edge.  An edge that comes back
without its style takes the one it was requested with.
-/

namespace ClassDiagram

/-! ## Shapes -/

/-- A rounded box with its label. -/
structure BoxShape where
  label : String
  x : Float
  y : Float
  width : Float
  height : Float
  cornerRadius : Float
  labelX : Float
  labelY : Float

/-- A line along a section of an edge. -/
structure LineShape where
  /-- The id of the edge. -/
  edgeId : String
  /-- The style of the edge. -/
  style : RelationshipKind
  /-- The points that the line visits. -/
  points : List Point

/-- The shapes of a diagram. -/
structure Drawing where
  boxes : List BoxShape
  lines : List LineShape

/-! ## From a layout -/

/-- The radius of the corners of a box. -/
def cornerRadius : Float := 8

/-- How far the base line of a label lies below the middle of its box. -/
def labelOffset : Float := 6

/-- The shape of a box. -/
def BoxShape.ofNode (node : PlacedNode) : BoxShape where
  label := node.id
  x := node.x
  y := node.y
  width := node.width
  height := node.height
  cornerRadius := ClassDiagram.cornerRadius
  labelX := node.x + node.width / 2
  labelY := node.y + node.height / 2 + labelOffset

/-- The points of a section, from its start to its end. -/
def RouteSection.points (route : RouteSection) : List Point :=
  route.start :: route.bends ++ [route.stop]

/-- The style of an edge: its own, that of the requested edge with its id, or
else that of inheritance. -/
def RoutedEdge.styleIn (edge : RoutedEdge) (request : Graph) : RelationshipKind :=
  match edge.style with
  | some style => style
  | none => ((request.edge? edge.id).map GraphEdge.style).getD .inheritance

/-- The lines of an edge, one for each section. -/
def LineShape.ofEdge (request : Graph) (edge : RoutedEdge) : List LineShape :=
  edge.sections.map fun route => ⟨edge.id, edge.styleIn request, route.points⟩

/-- The drawing of a layout that answers a request. -/
def Drawing.ofLayout (layout : DiagramLayout) (request : Graph) : Drawing where
  boxes := layout.children.map BoxShape.ofNode
  lines := layout.edges.flatMap (LineShape.ofEdge request)

/-! ## Texts of shapes -/

/-- Coordinates are written without an exponent and without an empty fraction. -/
def coordinateStyle : Decimal.Style where
  tie := .up
  isPositional := fun _ => true
  keepsFraction := false

/-- The text of a coordinate. -/
def coordinate (x : Float) : List Char :=
  coordinateStyle.writeFloat x

/-- The text of a point. -/
def Point.write (p : Point) : List Char :=
  coordinate p.x ++ ',' :: coordinate p.y

/-- The commands that draw a line through points: move to the first, then draw
to each of the others. -/
def pathCommands : List Point → List Char
  | [] => []
  | p :: ps => 'M' :: p.write ++ ps.flatMap fun q => ' ' :: 'L' :: q.write

/-- The commands that draw the line. -/
def LineShape.commands (line : LineShape) : List Char :=
  pathCommands line.points

/-- The dashes of a line, if its style has any. -/
def LineShape.dash? (line : LineShape) : Option String :=
  match line.style with
  | .usage => some "6,4"
  | .inheritance => none

end ClassDiagram
