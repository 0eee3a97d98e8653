import ClassDiagram.Graph.Basic
import ClassDiagram.Json.Write

/-!
# Diagrams as JSON

The documents that go to a layout engine: names, relationships and graph
descriptions, and the request that wraps a graph together with the options of
the layout.  Members are written in a fixed order.
-/

namespace ClassDiagram

open Json

/-! ## Names and relationships -/

/-- The name as a JSON text. -/
def ClassName.toJson (n : ClassName) : String :=
  String.ofList (writeString n.toString)

/-- The kind as a JSON text. -/
def RelationshipKind.toJson (k : RelationshipKind) : String :=
  String.ofList (writeString k.tag)

/-- The relationship as a JSON text. -/
def Relationship.toJson (r : Relationship) : String :=
  String.ofList <| writeObject
    [writeMember "source" (writeString r.source.toString),
     writeMember "target" (writeString r.target.toString),
     writeMember "kind" (writeString r.kind.tag)]

/-! ## Graphs -/

/-- The text of a box. -/
def GraphNode.write (node : GraphNode) : List Char :=
  writeObject
    [writeMember "id" (writeString node.id),
     writeMember "width" (writeNat node.width.toNat),
     writeMember "height" (writeNat node.height.toNat)]

/-- The text of a caption. -/
def Caption.write (label : Caption) : List Char :=
  writeObject [writeMember "text" (writeString label.text)]

/-- The text of an edge. -/
def GraphEdge.write (edge : GraphEdge) : List Char :=
  writeObject
    [writeMember "id" (writeString edge.id),
     writeMember "sources" (writeArray (edge.sources.map writeString)),
     writeMember "targets" (writeArray (edge.targets.map writeString)),
     writeMember "labels" (writeArray (edge.labels.map Caption.write)),
     writeMember "style" (writeString edge.style.tag)]

namespace Graph

/-- The members of a graph's document. -/
def members (g : Graph) : List (List Char) :=
  [writeMember "children" (writeArray (g.children.map GraphNode.write)),
   writeMember "edges" (writeArray (g.edges.map GraphEdge.write))]

/-- The text of a graph. -/
def write (g : Graph) : List Char :=
  writeObject g.members

/-- The graph as a JSON text. -/
def toJson (g : Graph) : String :=
  String.ofList g.write

end Graph

/-! ## Layout requests -/

namespace LayoutRequest

/-- The id of the root of every request. -/
def rootId : String := "root"

/-- The distance between neighbouring boxes. -/
def nodeSpacing : Nat := 120

/-- The distance between layers of boxes. -/
def layerSpacing : Nat := 120

/-- The distance between edges and boxes of adjoining layers. -/
def edgeNodeSpacing : Nat := 80

/-- The distance between edges. -/
def edgeSpacing : Nat := 80

/-- The options of the layout: layers from top to bottom, with edges routed at
right angles and never merged. -/
def options : List (String × String) :=
  [("elk.algorithm", "layered"),
   ("elk.direction", "DOWN"),
   ("elk.layered.edgeRouting", "ORTHOGONAL"),
   ("elk.layered.mergeEdges", "false"),
   ("elk.edgeRouting", "ORTHOGONAL"),
   ("elk.spacing.nodeNode", Nat.repr nodeSpacing),
   ("elk.layered.spacing.nodeNodeBetweenLayers", Nat.repr layerSpacing),
   ("elk.spacing.edgeNodeBetweenLayers", Nat.repr edgeNodeSpacing),
   ("elk.spacing.edgeEdge", Nat.repr edgeSpacing)]

/-- The text of the options. -/
def writeOptions : List Char :=
  writeObject (options.map fun (key, value) => writeMember key (writeString value))

/-- The text of the request to lay out a graph. -/
def write (g : Graph) : List Char :=
  writeObject <|
    writeMember "id" (writeString rootId) :: writeMember "layoutOptions" writeOptions :: g.members

/-- The request to lay out a graph, as a JSON text. -/
def toJson (g : Graph) : String :=
  String.ofList (write g)

end LayoutRequest

end ClassDiagram
