import ClassDiagram.Scan.Findings

/-!
# Graphs of classes

What a layout engine is told about a diagram: a box for each class, with its
size, and an edge for each relationship, with its caption and style.

Main results:

- `Graph.width_ofClasses`: every box has the width of its class.
-/

namespace ClassDiagram

/-! ## Boxes and edges -/

/-- A box of a given size. -/
structure GraphNode where
  id : String
  width : UInt32
  height : UInt32
deriving DecidableEq, Repr

/-- The caption of an edge. -/
structure Caption where
  text : String
deriving DecidableEq, Repr

/-- An edge between boxes, which it names by their ids. -/
structure GraphEdge where
  id : String
  sources : List String
  targets : List String
  labels : List Caption
  style : RelationshipKind
deriving DecidableEq, Repr

/-- The boxes and edges of a diagram. -/
structure Graph where
  children : List GraphNode
  edges : List GraphEdge
deriving DecidableEq, Repr

/-- The first edge with the given id. -/
def Graph.edge? (g : Graph) (id : String) : Option GraphEdge :=
  g.edges.find? (·.id == id)

/-! ## Sizes -/

/-- The number as a word of 32 bits, or the greatest word if it is too large. -/
def saturate (n : Nat) : UInt32 :=
  UInt32.ofNat (min n 0xffffffff)

theorem toNat_saturate (n : Nat) : (saturate n).toNat = min n 0xffffffff := by
  unfold saturate
  rw [UInt32.toNat_ofNat']
  omega

/-- The sum of two words, capped at the greatest word. -/
def saturatingAdd (a b : UInt32) : UInt32 :=
  saturate (a.toNat + b.toNat)

/-- The product of two words, capped at the greatest word. -/
def saturatingMul (a b : UInt32) : UInt32 :=
  saturate (a.toNat * b.toNat)

/-- The least width of a box. -/
def minNodeWidth : UInt32 := 120

/-- The width that one character of a name takes. -/
def charWidth : UInt32 := 8

/-- The room beside the name in a box. -/
def nodePadding : UInt32 := 24

/-- The height of every box. -/
def nodeHeight : UInt32 := 50

/-- The width of a box for a name of the given length. -/
def widthForLength (length : Nat) : UInt32 :=
  max minNodeWidth (saturatingAdd (saturatingMul (saturate length) charWidth) nodePadding)

/-- The width of the box for a class. -/
def ClassName.nodeWidth (n : ClassName) : UInt32 :=
  widthForLength n.length

/-! ## From classes and relationships -/

/-- The box for a class. -/
def GraphNode.ofClass (n : ClassName) : GraphNode where
  id := n.toString
  width := n.nodeWidth
  height := nodeHeight

/-- The edge for a relationship. -/
def GraphEdge.ofRelationship (r : Relationship) : GraphEdge where
  id := r.edgeId
  sources := [r.source.toString]
  targets := [r.target.toString]
  labels := [⟨r.kind.label⟩]
  style := r.kind

namespace Graph

/-- The description of classes and their relationships. -/
def ofClasses (classes : ClassSet) (relationships : List Relationship) : Graph where
  children := classes.names.map GraphNode.ofClass
  edges := relationships.map GraphEdge.ofRelationship

/-- The description of what a scan found. -/
def ofScan (found : Findings) : Graph :=
  ofClasses found.classes found.relationships.entries

theorem width_ofClasses {classes : ClassSet} {relationships : List Relationship}
    {node : GraphNode} (h : node ∈ (ofClasses classes relationships).children) :
    node.width = widthForLength node.id.toList.length := by
  obtain ⟨n, -, rfl⟩ := List.mem_map.1 h
  simp [GraphNode.ofClass, ClassName.nodeWidth, ClassName.length, ClassName.toString]

end Graph

end ClassDiagram
