import ClassDiagram.Drawing.Shapes
import ClassDiagram.Proofs.DocumentIds
import ClassDiagram.Proofs.GraphDocument

/-!
# Styles that come back from a layout

A layout engine gives back the edges of a request with their routes.  It may repeat the
style of an edge, give null for it, or leave it out.  An edge without a style is looked up
by its id, and the first edge found need not be the right one, since edges may share an id.
But edges that share an id are of the same kind, so the style is right all the same.

Main results:

- Theorem `RoutedEdge.Answers.styleIn_eq`: an edge gets the style of every requested edge
  with its id.
- Theorem `EchoedEdge.Legible.readBack`: an edge is read back from its text, whichever way
  its style is given.
- Theorem `ofLayout_of_answers`: the drawing does not depend on which styles came back.
-/

namespace ClassDiagram

open Json

/-! ## Edges that come back -/

/-- The edge answers a request: it has the id of a requested edge, and if it has a style,
that of a requested edge with its id. -/
structure RoutedEdge.Answers (edge : RoutedEdge) (request : Graph) : Prop where
  id_mem : ∃ e ∈ request.edges, e.id = edge.id
  style_mem : ∀ style, edge.style = some style →
    ∃ e ∈ request.edges, e.id = edge.id ∧ e.style = style

/-- Every edge of the layout answers the request. -/
def DiagramLayout.Answers (layout : DiagramLayout) (request : Graph) : Prop :=
  ∀ edge ∈ layout.edges, edge.Answers request

/-- The edge without its style. -/
def RoutedEdge.withoutStyle (edge : RoutedEdge) : RoutedEdge :=
  { edge with style := none }

/-- The layout without the styles of its edges. -/
def DiagramLayout.withoutStyles (layout : DiagramLayout) : DiagramLayout :=
  { layout with edges := layout.edges.map RoutedEdge.withoutStyle }

section

variable {classes : ClassSet} {relationships : List Relationship} {edge : RoutedEdge}
  {e : GraphEdge}

/-- An edge that answers a request gets the style of every requested edge with its id. -/
theorem RoutedEdge.Answers.styleIn_eq (h : edge.Answers (.ofClasses classes relationships))
    (he : e ∈ (Graph.ofClasses classes relationships).edges) (hid : e.id = edge.id) :
    edge.styleIn (.ofClasses classes relationships) = e.style := by
  rw [styleIn]
  cases hstyle : edge.style with
  | none =>
      obtain ⟨first, hfirst, hedge, hfirstId⟩ := Graph.exists_edge?_of_mem he
      rw [← hid, hedge]
      exact Graph.style_eq_of_id_eq hfirst he hfirstId
  | some style =>
      obtain ⟨e', he', hid', rfl⟩ := h.style_mem style hstyle
      exact Graph.style_eq_of_id_eq he' he (hid'.trans hid.symm)

theorem RoutedEdge.Answers.withoutStyle {request : Graph} (h : edge.Answers request) :
    edge.withoutStyle.Answers request where
  id_mem := h.id_mem
  style_mem := fun _ hstyle => nomatch hstyle

/-- Every section of an edge is drawn in the style of every requested edge with its id. -/
theorem LineShape.ofEdge_of_answers (h : edge.Answers (.ofClasses classes relationships))
    (he : e ∈ (Graph.ofClasses classes relationships).edges) (hid : e.id = edge.id) :
    ofEdge (.ofClasses classes relationships) edge =
      edge.sections.map fun route => ⟨edge.id, e.style, route.points⟩ := by
  rw [ofEdge, h.styleIn_eq he hid]

/-- Leaving out the style of an edge does not show in its lines. -/
theorem LineShape.ofEdge_withoutStyle (h : edge.Answers (.ofClasses classes relationships)) :
    ofEdge (.ofClasses classes relationships) edge.withoutStyle =
      ofEdge (.ofClasses classes relationships) edge := by
  obtain ⟨e, he, hid⟩ := h.id_mem
  exact (ofEdge_of_answers h.withoutStyle he hid).trans (ofEdge_of_answers h he hid).symm

/-- Leaving out the styles of edges does not show in the drawing. -/
theorem Drawing.ofLayout_withoutStyles {layout : DiagramLayout}
    (h : layout.Answers (.ofClasses classes relationships)) :
    ofLayout layout.withoutStyles (.ofClasses classes relationships) =
      ofLayout layout (.ofClasses classes relationships) := by
  have hlines : layout.withoutStyles.edges.flatMap
      (LineShape.ofEdge (.ofClasses classes relationships)) =
        layout.edges.flatMap (LineShape.ofEdge (.ofClasses classes relationships)) := by
    rw [DiagramLayout.withoutStyles, List.flatMap_map]
    exact List.flatMap_congr fun edge hedge => LineShape.ofEdge_withoutStyle (h edge hedge)
  rw [ofLayout, ofLayout, hlines]
  rfl

end

/-! ## Documents that come back -/

/-- How an engine gives back the style of an edge. -/
inductive StyleEcho
  | given
  | null
  | omitted

namespace StyleEcho

/-- The member of an edge's object that gives the style. -/
def members (style : RelationshipKind) : StyleEcho → List (String × List Char)
  | given => [("style", writeString style.tag)]
  | null => [("style", ['n', 'u', 'l', 'l'])]
  | omitted => []

/-- The style as it is given back. -/
def style? (style : RelationshipKind) : StyleEcho → Option RelationshipKind
  | given => some style
  | null | omitted => none

end StyleEcho

theorem StyleEcho.eq_of_style?_eq_some {echo : StyleEcho} {style style' : RelationshipKind}
    (h : echo.style? style = some style') : style = style' := by
  cases echo with
  | given => exact Option.some.inj h
  | null => cases h
  | omitted => cases h

/-- A requested edge as an engine gives it back. -/
structure EchoedEdge where
  edge : GraphEdge
  echo : StyleEcho
  /-- The text of the sections of the route. -/
  routes : List Char
  /-- The sections of the route. -/
  sections : List RouteSection

namespace EchoedEdge

/-- The members of the edge's object. -/
def members (a : EchoedEdge) : List (String × List Char) :=
  ("id", writeString a.edge.id) :: (a.echo.members a.edge.style ++ [("sections", a.routes)])

/-- The text of the edge. -/
def write (a : EchoedEdge) : List Char :=
  writeObject (Shape.memberTexts a.members)

/-- The edge with its route. -/
def routed (a : EchoedEdge) : RoutedEdge where
  id := a.edge.id
  style := a.echo.style? a.edge.style
  sections := a.sections

/-- The lines of the edge, in the style that was requested. -/
def lines (a : EchoedEdge) : List LineShape :=
  a.sections.map fun route => ⟨a.edge.id, a.edge.style, route.points⟩

/-- The text of the route is that of its sections. -/
def Legible (a : EchoedEdge) : Prop :=
  ReadBack (readList RouteSection.shape.read) a.routes a.sections

end EchoedEdge

/-- The members of the document with the given text of placed boxes and the given edges. -/
def layoutMembers (children : List Char) (answers : List EchoedEdge) :
    List (String × List Char) :=
  [("children", children), ("edges", writeArray (answers.map EchoedEdge.write))]

/-- The document with the given text of placed boxes and the given edges. -/
def layoutText (children : List Char) (answers : List EchoedEdge) : String :=
  String.ofList (writeObject (Shape.memberTexts (layoutMembers children answers)))

namespace EchoedEdge

variable {a : EchoedEdge}

/-- The members of an edge's object make up the edge, whichever way its style is given. -/
theorem Legible.exists_takes (h : a.Legible) : ∃ given,
    RoutedEdge.shape.Takes [] RoutedEdge.shape.blank a.members given a.routed ∧
      RoutedEdge.shape.firstMissing? given = none := by
  obtain ⟨edge, echo, routes, sections⟩ := a
  have hid := readBack_string edge.id
  cases echo with
  | given =>
      have hstyle := edge.style.readBack.option (by simp [writeString])
      refine ⟨["sections", "style", "id"], .put rfl rfl hid ?_, rfl⟩
      exact .put rfl rfl hstyle (.put rfl rfl h .nil)
  | null =>
      refine ⟨["sections", "style", "id"], .put rfl rfl hid ?_, rfl⟩
      exact .put rfl rfl readBack_null (.put rfl rfl h .nil)
  | omitted => exact ⟨["sections", "id"], .put rfl rfl hid (.put rfl rfl h .nil), rfl⟩

/-- An edge is read back from its text. -/
theorem Legible.readBack (h : a.Legible) : ReadBack RoutedEdge.shape.read a.write a.routed := by
  obtain ⟨given, htakes, hall⟩ := h.exists_takes
  exact htakes.readBack hall

end EchoedEdge

/-- A document with legible parts is read as the layout that it describes. -/
theorem ofJson_layoutText {children : List Char} {nodes : List PlacedNode}
    {answers : List EchoedEdge} (hnodes : ReadBack (readList PlacedNode.shape.read) children nodes)
    (hlegible : ∀ a ∈ answers, a.Legible) :
    DiagramLayout.ofJson (layoutText children answers) =
      .ok ⟨nodes, answers.map EchoedEdge.routed⟩ := by
  have hanswers : List.Forall₂ (ReadBack RoutedEdge.shape.read) (answers.map EchoedEdge.write)
      (answers.map EchoedEdge.routed) := by
    rw [List.forall₂_map_left_iff, List.forall₂_map_right_iff, List.forall₂_same]
    exact fun a ha => (hlegible a ha).readBack
  have htakes : DiagramLayout.shape.Takes [] DiagramLayout.shape.blank
      (layoutMembers children answers) ["edges", "children"]
      ⟨nodes, answers.map EchoedEdge.routed⟩ := by
    refine .put rfl rfl hnodes ?_
    refine .put rfl rfl (readBack_list hanswers) ?_
    exact .nil
  have hread : DiagramLayout.shape.read (layoutText children answers).toList =
      .ok (⟨nodes, answers.map EchoedEdge.routed⟩, []) := by
    rw [layoutText, String.toList_ofList, ← List.append_nil (writeObject _)]
    exact Shape.read_writeObject htakes rfl []
  rw [DiagramLayout.ofJson, readWhole, hread]
  rfl

/-! ## The drawing -/

section

variable {classes : ClassSet} {relationships : List Relationship}

namespace EchoedEdge

variable {a : EchoedEdge}

theorem answers_routed (ha : a.edge ∈ (Graph.ofClasses classes relationships).edges) :
    a.routed.Answers (.ofClasses classes relationships) where
  id_mem := ⟨a.edge, ha, rfl⟩
  style_mem := fun _ hstyle => ⟨a.edge, ha, rfl, StyleEcho.eq_of_style?_eq_some hstyle⟩

theorem ofEdge_routed (ha : a.edge ∈ (Graph.ofClasses classes relationships).edges) :
    LineShape.ofEdge (.ofClasses classes relationships) a.routed = a.lines :=
  LineShape.ofEdge_of_answers (answers_routed ha) ha rfl

end EchoedEdge

/-- The drawing of edges that come back does not show how their styles come back. -/
theorem ofLayout_routed (nodes : List PlacedNode) {answers : List EchoedEdge}
    (h : ∀ a ∈ answers, a.edge ∈ (Graph.ofClasses classes relationships).edges) :
    Drawing.ofLayout ⟨nodes, answers.map EchoedEdge.routed⟩ (.ofClasses classes relationships) =
      ⟨nodes.map BoxShape.ofNode, answers.flatMap EchoedEdge.lines⟩ := by
  rw [Drawing.ofLayout, List.flatMap_map]
  exact congrArg _ (List.flatMap_congr fun a ha => EchoedEdge.ofEdge_routed (h a ha))

end

/-- The drawing of a layout does not depend on which styles came back.  Two layouts that
answer a request and agree up to the styles of their edges are drawn alike, and every section
of an edge is drawn in the style of each requested edge with its id, also where edges share an
id.  So a document is drawn in the styles that were requested, whichever of its edges give
their style, give null or leave the style out. -/
theorem ofLayout_of_answers (classes : ClassSet) (relationships : List Relationship) :
    (∀ layout layout' : DiagramLayout,
      layout.Answers (.ofClasses classes relationships) →
      layout'.Answers (.ofClasses classes relationships) →
      layout.withoutStyles = layout'.withoutStyles →
        Drawing.ofLayout layout (.ofClasses classes relationships) =
          Drawing.ofLayout layout' (.ofClasses classes relationships)) ∧
      (∀ edge : RoutedEdge, edge.Answers (.ofClasses classes relationships) →
        ∀ e ∈ (Graph.ofClasses classes relationships).edges, e.id = edge.id →
          LineShape.ofEdge (.ofClasses classes relationships) edge =
            edge.sections.map fun route => ⟨edge.id, e.style, route.points⟩) ∧
      ∀ (children : List Char) (nodes : List PlacedNode) (answers : List EchoedEdge),
        ReadBack (readList PlacedNode.shape.read) children nodes →
        (∀ a ∈ answers, a.edge ∈ (Graph.ofClasses classes relationships).edges ∧ a.Legible) →
          (DiagramLayout.ofJson (layoutText children answers)).map
              (Drawing.ofLayout · (.ofClasses classes relationships)) =
            .ok ⟨nodes.map BoxShape.ofNode, answers.flatMap EchoedEdge.lines⟩ := by
  refine ⟨fun layout layout' h h' hsame => ?_, fun edge h e he hid => ?_,
    fun children nodes answers hnodes hanswers => ?_⟩
  · rw [← Drawing.ofLayout_withoutStyles h, hsame, Drawing.ofLayout_withoutStyles h']
  · exact LineShape.ofEdge_of_answers h he hid
  · rw [ofJson_layoutText hnodes fun a ha => (hanswers a ha).2, Except.map,
      ofLayout_routed nodes fun a ha => (hanswers a ha).1]

/-- Two uses that share an id. -/
def kennelUses : List Relationship :=
  [.usage ⟨"Sheep_Dog".toList, by decide +kernel⟩ ⟨"Food".toList, by decide +kernel⟩,
   .usage ⟨"Sheep".toList, by decide +kernel⟩ ⟨"Dog_Food".toList, by decide +kernel⟩]

/-- A point with the same number as both coordinates. -/
def diagonalPoint (n : Nat) : Point :=
  ⟨(Number.natural n).toFloat, (Number.natural n).toFloat⟩

/-- The text of a point with the same number as both coordinates. -/
def diagonalText (n : Nat) : List Char :=
  writeObject (Shape.memberTexts [("x", writeNat n), ("y", writeNat n)])

/-- The two uses as they come back, with one route for both. -/
def kennelAnswers (echoes : List StyleEcho) : List EchoedEdge :=
  (kennelUses.zip echoes).map fun (use, echo) =>
    { edge := .ofRelationship use
      echo := echo
      routes := writeArray [writeObject (Shape.memberTexts
        [("startPoint", diagonalText 2), ("endPoint", diagonalText 3)])]
      sections := [⟨diagonalPoint 2, [], diagonalPoint 3⟩] }

theorem readBack_diagonalText {n : Nat}
    (h : ReadBack readFloat (writeNat n) (Number.natural n).toFloat) :
    ReadBack Point.shape.read (diagonalText n) (diagonalPoint n) := by
  have htakes : Point.shape.Takes [] Point.shape.blank [("x", writeNat n), ("y", writeNat n)]
      ["y", "x"] (diagonalPoint n) := .put rfl rfl h (.put rfl rfl h .nil)
  exact htakes.readBack rfl

theorem legible_kennelAnswers {echoes : List StyleEcho} :
    ∀ a ∈ kennelAnswers echoes, a.Legible := by
  have htwo : ReadBack readFloat (writeNat 2) (Number.natural 2).toFloat := by
    refine ⟨⟨'2', [], rfl, by decide, by decide⟩, ?_⟩
    rintro _ ⟨c, cs, rfl, rfl | rfl | rfl⟩ <;> rfl
  have hthree : ReadBack readFloat (writeNat 3) (Number.natural 3).toFloat := by
    refine ⟨⟨'3', [], rfl, by decide, by decide⟩, ?_⟩
    rintro _ ⟨c, cs, rfl, rfl | rfl | rfl⟩ <;> rfl
  have htakes : RouteSection.shape.Takes [] RouteSection.shape.blank
      [("startPoint", diagonalText 2), ("endPoint", diagonalText 3)] ["endPoint", "startPoint"]
      ⟨diagonalPoint 2, [], diagonalPoint 3⟩ :=
    .put rfl rfl (readBack_diagonalText htwo) (.put rfl rfl (readBack_diagonalText hthree) .nil)
  intro a ha
  obtain ⟨_, -, rfl⟩ := List.mem_map.mp ha
  exact readBack_list (.cons (htakes.readBack rfl) .nil)

theorem ofLayout_of_kennelAnswers :
    kennelUses.map Relationship.edgeId = ["Sheep_Dog_Food_usage", "Sheep_Dog_Food_usage"] ∧
      (DiagramLayout.ofJson (layoutText (writeArray []) (kennelAnswers [.omitted, .given]))).map
          (Drawing.ofLayout · (.ofClasses .empty kennelUses)) =
        .ok ⟨[], kennelUses.map fun use =>
          ⟨use.edgeId, .usage, [diagonalPoint 2, diagonalPoint 3]⟩⟩ := by
  refine ⟨by decide +kernel, ?_⟩
  obtain ⟨-, -, hdocument⟩ := ofLayout_of_answers .empty kennelUses
  refine hdocument _ [] _ (readBack_list .nil) fun a ha => ⟨?_, legible_kennelAnswers a ha⟩
  obtain ⟨⟨use, echo⟩, huse, rfl⟩ := List.mem_map.mp ha
  exact List.mem_map_of_mem (List.of_mem_zip huse).1

end ClassDiagram
