import ClassDiagram.Graph.Basic
import ClassDiagram.Json.Record

/-!
# Reading diagrams from JSON

Relationship kinds and graph descriptions are read back from the documents in
which they are written; members that a description does not have are ignored.
-/

namespace ClassDiagram

open Json

/-- Reads a relationship kind from its tag. -/
def RelationshipKind.reader : Reader RelationshipKind :=
  readTag RelationshipKind.ofTag? (ticked "inheritance" ++ " or " ++ ticked "usage")

/-- The kind that a JSON text holds. -/
def RelationshipKind.ofJson (text : String) : Except Failure RelationshipKind :=
  readWhole reader text

/-- How a box is read. -/
def GraphNode.shape : Shape GraphNode where
  name := "NodeDescription"
  blank := ⟨"", 0, 0⟩
  fields :=
    [{ key := "id", read := fun node => return { node with id := ← readString } },
     { key := "width", read := fun node => return { node with width := ← readWord32 } },
     { key := "height", read := fun node => return { node with height := ← readWord32 } }]

/-- How a caption is read. -/
def Caption.shape : Shape Caption where
  name := "EdgeLabel"
  blank := ⟨""⟩
  fields := [{ key := "text", read := fun _ => return ⟨← readString⟩ }]

/-- How an edge is read. -/
def GraphEdge.shape : Shape GraphEdge where
  name := "EdgeDescription"
  blank := ⟨"", [], [], [], .inheritance⟩
  fields :=
    [{ key := "id", read := fun edge => return { edge with id := ← readString } },
     { key := "sources"
       read := fun edge => return { edge with sources := ← readList readString } },
     { key := "targets"
       read := fun edge => return { edge with targets := ← readList readString } },
     { key := "labels"
       read := fun edge => return { edge with labels := ← readList Caption.shape.read } },
     { key := "style"
       read := fun edge => return { edge with style := ← RelationshipKind.reader } }]

/-- How a graph is read. -/
def Graph.shape : Shape Graph where
  name := "GraphDescription"
  blank := ⟨[], []⟩
  fields :=
    [{ key := "children"
       read := fun graph => return { graph with children := ← readList GraphNode.shape.read } },
     { key := "edges"
       read := fun graph => return { graph with edges := ← readList GraphEdge.shape.read } }]

/-- The graph that a JSON text holds. -/
def Graph.ofJson (text : String) : Except Failure Graph :=
  readWhole shape.read text

end ClassDiagram
