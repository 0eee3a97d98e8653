import ClassDiagram.Proofs.Markup
import ClassDiagram.Proofs.PathCommands

/-!
# The markup of a drawing

The document of a drawing, read back as markup, shows the layout that was drawn
and nothing else: a rectangle and a label for every box and a path for every
section of an edge, in the order of the layout, between the tags that frame
them.  The ids of the boxes are the texts of the labels, and whatever characters
they hold, no tag depends on them.

Main results:

- `Svg.writes_write`: the marks that the document of a drawing writes.
- `Drawing.shows_readMarkup?`: the document read back shows the layout.
-/

namespace ClassDiagram

open Markup

namespace Svg

/-! ## The tags of a drawing -/

/-- The tag that begins the document. -/
def documentTag : Tag :=
  ⟨.opening, "svg", [⟨"xmlns", "http://www.w3.org/2000/svg".toList⟩]⟩

/-- The tag that ends what an opening tag of the name began. -/
def closingTag (name : String) : Tag :=
  ⟨.closing, name, []⟩

/-- The rectangle of a box. -/
def rectangleTag (node : PlacedNode) : Tag :=
  ⟨.single, "rect",
    [⟨"x", coordinate node.x⟩, ⟨"y", coordinate node.y⟩, ⟨"width", coordinate node.width⟩,
      ⟨"height", coordinate node.height⟩, ⟨"rx", coordinate cornerRadius⟩,
      ⟨"fill", "#23263a".toList⟩, ⟨"stroke", "#e0e6f0".toList⟩, ⟨"stroke-width", "2".toList⟩]⟩

/-- The tag that begins the label of a box. -/
def labelTag (node : PlacedNode) : Tag :=
  ⟨.opening, "text",
    [⟨"x", coordinate (node.x + node.width / 2)⟩,
      ⟨"y", coordinate (node.y + node.height / 2 + labelOffset)⟩,
      ⟨"text-anchor", "middle".toList⟩, ⟨"fill", "#fff".toList⟩, ⟨"font-size", "16".toList⟩,
      ⟨"font-family", "sans-serif".toList⟩]⟩

/-- The dashes of a path, which only a usage has. -/
def dashes : RelationshipKind → List Attribute
  | .usage => [⟨"stroke-dasharray", "6,4".toList⟩]
  | .inheritance => []

/-- The path of a section of an edge. -/
def pathTag (style : RelationshipKind) (route : RouteSection) : Tag :=
  ⟨.single, "path",
    [⟨"d", pathCommands route.points⟩, ⟨"stroke", "#aaa".toList⟩, ⟨"stroke-width", "2".toList⟩,
      ⟨"fill", "none".toList⟩, ⟨"marker-end", "url(#arrowhead)".toList⟩] ++ dashes style⟩

/-- The attributes of the marker that is put at the end of a path. -/
def markerAttributes : List Attribute :=
  [⟨"id", "arrowhead".toList⟩, ⟨"markerWidth", "10".toList⟩, ⟨"markerHeight", "7".toList⟩,
    ⟨"refX", "10".toList⟩, ⟨"refY", "3.5".toList⟩, ⟨"orient", "auto".toList⟩,
    ⟨"markerUnits", "strokeWidth".toList⟩]

/-- The attributes of the triangle that the marker shows. -/
def tipAttributes : List Attribute :=
  [⟨"points", "0 0, 10 3.5, 0 7".toList⟩, ⟨"fill", "#aaa".toList⟩]

/-- The definition of the arrowhead. -/
def arrowheadTags : List Tag :=
  [⟨.opening, "defs", []⟩, ⟨.opening, "marker", markerAttributes⟩,
    ⟨.single, "polygon", tipAttributes⟩, closingTag "marker", closingTag "defs"]

/-- The marks of a box: its rectangle, and its label with the id as its text. -/
def boxMarks (node : PlacedNode) : List Mark :=
  [⟨rectangleTag node, []⟩, ⟨labelTag node, node.id.toList⟩, ⟨closingTag "text", []⟩]

/-- The marks of an edge, one path for each section. -/
def edgeMarks (request : Graph) (edge : RoutedEdge) : List Mark :=
  edge.sections.map fun route => ⟨pathTag (edge.styleIn request) route, []⟩

/-- The marks of a layout that answers a request. -/
def layoutMarks (layout : DiagramLayout) (request : Graph) : List Mark :=
  ⟨documentTag, []⟩ :: layout.children.flatMap boxMarks ++
    layout.edges.flatMap (edgeMarks request) ++ arrowheadTags.map (Mark.mk · []) ++
    [⟨closingTag "svg", []⟩]

/-! ## What each part writes -/

theorem isValuePart_of_isCoordinatePart {c : Char} (h : isCoordinatePart c) : isValuePart c := by
  unfold isValuePart
  simp only [Bool.and_eq_true, bne_iff_ne]
  refine ⟨⟨?_, ?_⟩, ?_⟩ <;> (rintro rfl; revert h; decide)

theorem proper_coordinate {name : String} (named : IsName name) (x : Float) :
    Attribute.Proper ⟨name, coordinate x⟩ :=
  ⟨named, List.all_eq_true.2 fun _ hc =>
    isValuePart_of_isCoordinatePart (isCoordinatePart_of_mem hc)⟩

theorem isValuePart_of_mem_pathCommands {points : List Point} {c : Char}
    (h : c ∈ pathCommands points) : isValuePart c := by
  have write {p : Point} (hc : c ∈ p.write) : isValuePart c := by
    rcases List.mem_append.1 hc with hc | hc
    · exact isValuePart_of_isCoordinatePart (isCoordinatePart_of_mem hc)
    rcases List.mem_cons.1 hc with rfl | hc
    · decide
    · exact isValuePart_of_isCoordinatePart (isCoordinatePart_of_mem hc)
  cases points with
  | nil => exact absurd h List.not_mem_nil
  | cons p ps =>
    simp only [pathCommands, List.cons_append, List.mem_cons, List.mem_append,
      List.mem_flatMap] at h
    rcases h with rfl | h | ⟨q, -, rfl | rfl | h⟩
    · decide
    · exact write h
    · decide
    · decide
    · exact write h

theorem proper_rectangleTag (node : PlacedNode) :
    ∀ a ∈ (rectangleTag node).attributes, a.Proper := by
  simp only [rectangleTag, List.forall_mem_cons]
  refine ⟨?_, ?_, ?_, ?_, ?_, by decide⟩
  all_goals exact proper_coordinate (by decide) _

theorem proper_labelTag (node : PlacedNode) :
    ∀ a ∈ (labelTag node).attributes, a.Proper := by
  simp only [labelTag, List.forall_mem_cons]
  refine ⟨?_, ?_, by decide⟩
  all_goals exact proper_coordinate (by decide) _

theorem proper_pathTag (style : RelationshipKind) (route : RouteSection) :
    ∀ a ∈ (pathTag style route).attributes, a.Proper := by
  rw [pathTag, List.cons_append, List.forall_mem_cons]
  have commands : (pathCommands route.points).all isValuePart :=
    List.all_eq_true.2 fun _ => isValuePart_of_mem_pathCommands
  refine ⟨⟨(by decide : IsName "d"), commands⟩, ?_⟩
  cases style <;> decide

theorem writes_opening : Writes opening [⟨documentTag, []⟩] := by
  have text : opening = writeHead "svg" documentTag.attributes ++ '>' :: escape [] := by
    decide
  rw [text]
  exact .opening (by decide) (by decide) []

theorem writes_closingTag {name : String} {text : List Char} (named : IsName name)
    (eq : text = '<' :: '/' :: name.toList ++ ['>']) : Writes text [⟨closingTag name, []⟩] :=
  eq ▸ .closing named

theorem writes_rectangle (node : PlacedNode) :
    Writes (rectangle (.ofNode node)) [⟨rectangleTag node, []⟩] := by
  have text : rectangle (.ofNode node) =
      writeHead "rect" (rectangleTag node).attributes ++ " />".toList := by
    simp only [writeHead, writeAttributes, rectangleTag, List.flatMap_cons, List.flatMap_nil,
      List.append_nil, ← List.append_assoc]
    rfl
  rw [text]
  exact .single_blank (by decide) (proper_rectangleTag node)

theorem writes_label (node : PlacedNode) :
    Writes (label (.ofNode node)) [⟨labelTag node, node.id.toList⟩, ⟨closingTag "text", []⟩] := by
  have text : label (.ofNode node) =
      writeHead "text" (labelTag node).attributes ++ '>' :: escape node.id.toList ++
        "</text>".toList := by
    simp only [writeHead, writeAttributes, labelTag, List.flatMap_cons, List.flatMap_nil,
      List.append_nil, ← List.append_assoc]
    rfl
  rw [text]
  exact (Writes.opening (by decide) (proper_labelTag node) node.id.toList).append
    (writes_closingTag (by decide) (by decide))

theorem writeAttributes_dashes (edge : String) (style : RelationshipKind) (points : List Point) :
    writeAttributes (dashes style) =
      (LineShape.mk edge style points).dash?.elim [] (fixed "stroke-dasharray") := by
  cases style with
  | usage => exact List.append_nil _
  | inheritance => rfl

theorem writes_path (edge : String) (style : RelationshipKind) (route : RouteSection) :
    Writes (path ⟨edge, style, route.points⟩) [⟨pathTag style route, []⟩] := by
  have text : path ⟨edge, style, route.points⟩ =
      writeHead "path" (pathTag style route).attributes ++ " />".toList := by
    rw [writeHead, pathTag, writeAttributes_append, writeAttributes_dashes edge style route.points]
    simp only [writeAttributes, List.flatMap_cons, List.flatMap_nil, List.append_nil,
      ← List.append_assoc]
    rfl
  rw [text]
  exact .single_blank (by decide) (proper_pathTag style route)

theorem writes_arrowhead : Writes arrowhead (arrowheadTags.map (Mark.mk · [])) := by
  have text : arrowhead =
      (writeHead "defs" [] ++ '>' :: escape []) ++
        ((writeHead "marker" markerAttributes ++ '>' :: escape []) ++
          ((writeHead "polygon" tipAttributes ++ ['/', '>']) ++
            ("</marker>".toList ++ "</defs>".toList))) := by
    cbv
  rw [text]
  exact (Writes.opening (by decide) (by decide) []).append <|
    (Writes.opening (by decide) (by decide) []).append <|
    (Writes.single (by decide) (by decide)).append <|
    (writes_closingTag (by decide) (by decide)).append (writes_closingTag (by decide) (by decide))

/-- The document of a drawing writes the marks of the layout that was drawn. -/
theorem writes_write (layout : DiagramLayout) (request : Graph) :
    Writes (write (.ofLayout layout request)) (layoutMarks layout request) := by
  have boxes : Writes ((layout.children.map BoxShape.ofNode).flatMap fun box =>
      rectangle box ++ label box) (layout.children.flatMap boxMarks) := by
    rw [List.flatMap_map]
    exact .flatMap fun node _ => (writes_rectangle node).append (writes_label node)
  have lines : Writes ((layout.edges.flatMap (LineShape.ofEdge request)).flatMap path)
      (layout.edges.flatMap (edgeMarks request)) := by
    rw [List.flatMap_assoc]
    refine .flatMap fun edge _ => ?_
    rw [LineShape.ofEdge, edgeMarks, List.flatMap_map, List.map_eq_flatMap]
    exact .flatMap fun route _ => writes_path edge.id _ route
  exact (((writes_opening.append boxes).append lines).append writes_arrowhead).append
    (writes_closingTag (by decide) (by decide))

end Svg

/-! ## What the document shows -/

/-- Whether the tag begins a part of the document with the given name. -/
def Markup.Tag.begins (tag : Tag) (name : String) : Bool :=
  tag.kind != .closing && tag.name == name

/-- The value of the attribute with the given name, if the tag has one. -/
def Markup.Tag.value? (tag : Tag) (name : String) : Option (List Char) :=
  (tag.attributes.find? (·.name == name)).map Attribute.value

/-- The layout with other ids of its boxes, one for each position. -/
def DiagramLayout.withIds (layout : DiagramLayout) (ids : Nat → String) : DiagramLayout :=
  { layout with children := layout.children.mapIdx fun i node => { node with id := ids i } }

/-- The marks show the layout, as the answer to a request, and nothing else. -/
structure Svg.Shows (layout : DiagramLayout) (request : Graph) (marks : List Mark) : Prop where
  /-- Inside the frame there are a rectangle and a label for every box, then a
  path for every section of every edge, then the definition of the arrowhead. -/
  tags : marks.map Mark.tag =
    documentTag ::
      layout.children.flatMap (fun node =>
        [rectangleTag node, labelTag node, closingTag "text"]) ++
      layout.edges.flatMap (fun edge => edge.sections.map (pathTag (edge.styleIn request))) ++
      arrowheadTags ++ [closingTag "svg"]
  /-- The texts of the labels are the ids of the boxes. -/
  labels : (marks.filter (·.tag.begins "text")).map Mark.text =
    layout.children.map (·.id.toList)
  /-- There is no text but in labels. -/
  noText : ∀ mark ∈ marks, mark.tag.begins "text" = false → mark.text = []
  /-- Each path visits the points of its section, from its start to its end. -/
  routes : ((marks.map Mark.tag).filter (·.begins "path")).map
      (fun tag => (tag.value? "d").bind readPath?) =
    layout.edges.flatMap fun edge => edge.sections.map fun route =>
      some ((route.start :: route.bends ++ [route.stop]).map fun p =>
        (coordinate p.x, coordinate p.y))
  /-- A path has dashes exactly if its edge is a usage, or has no style and
  was requested as a usage. -/
  dashed : ((marks.map Mark.tag).filter (·.begins "path")).map
      (fun tag => (tag.value? "stroke-dasharray").isSome) =
    layout.edges.flatMap fun edge => edge.sections.map fun _ =>
      decide (edge.style = some .usage ∨
        edge.style = none ∧ (request.edge? edge.id).map GraphEdge.style = some .usage)

namespace Svg

variable (layout : DiagramLayout) (request : Graph)

/-- What a selection that leaves out the frame takes of the marks of a layout. -/
theorem filter_layoutMarks {p : Mark → Bool} (document : p ⟨documentTag, []⟩ = false)
    (arrowhead : (arrowheadTags.map (Mark.mk · [])).filter p = [])
    (closing : p ⟨closingTag "svg", []⟩ = false) :
    (layoutMarks layout request).filter p =
      layout.children.flatMap (fun node => (boxMarks node).filter p) ++
        layout.edges.flatMap fun edge => (edgeMarks request edge).filter p := by
  simp [layoutMarks, List.filter_flatMap, document, arrowhead, closing]

/-- The labels among the marks of a layout. -/
theorem filter_text_layoutMarks :
    (layoutMarks layout request).filter (·.tag.begins "text") =
      layout.children.map fun node => ⟨labelTag node, node.id.toList⟩ := by
  have box (node : PlacedNode) : (boxMarks node).filter (·.tag.begins "text") =
      [⟨labelTag node, node.id.toList⟩] := rfl
  have edge (edge : RoutedEdge) : (edgeMarks request edge).filter (·.tag.begins "text") = [] := by
    simp [edgeMarks, pathTag, Tag.begins]
  rw [filter_layoutMarks layout request rfl (by decide) rfl]
  simp [box, edge, List.map_eq_flatMap]

/-- The paths among the marks of a layout. -/
theorem filter_path_layoutMarks :
    (layoutMarks layout request).filter (·.tag.begins "path") =
      layout.edges.flatMap (edgeMarks request) := by
  have box (node : PlacedNode) : (boxMarks node).filter (·.tag.begins "path") = [] := rfl
  have edge (edge : RoutedEdge) : (edgeMarks request edge).filter (·.tag.begins "path") =
      edgeMarks request edge := by
    simp [edgeMarks, pathTag, Tag.begins]
  rw [filter_layoutMarks layout request rfl (by decide) rfl]
  simp [box, edge]

/-- What is read off the paths of a layout is what is read off each section. -/
theorem map_path_layoutMarks {α : Type} (f : Tag → α) :
    (((layoutMarks layout request).map Mark.tag).filter (·.begins "path")).map f =
      layout.edges.flatMap fun edge => edge.sections.map fun route =>
        f (pathTag (edge.styleIn request) route) := by
  rw [List.filter_map, List.map_map]
  exact (congrArg (List.map (f ∘ Mark.tag)) (filter_path_layoutMarks layout request)).trans <| by
    simp [List.map_flatMap, edgeMarks, Function.comp_def]

theorem readPath?_pathTag (style : RelationshipKind) (route : RouteSection) :
    ((pathTag style route).value? "d").bind readPath? =
      some ((route.start :: route.bends ++ [route.stop]).map fun p =>
        (coordinate p.x, coordinate p.y)) :=
  readPath?_pathCommands route.start (route.bends ++ [route.stop])

theorem isSome_dasharray_pathTag (style : RelationshipKind) (route : RouteSection) :
    ((pathTag style route).value? "stroke-dasharray").isSome = decide (style = .usage) := by
  cases style <;> rfl

end Svg

/-- The style of an edge is usage exactly if it says so, or leaves the style out
and was requested as a usage. -/
theorem RoutedEdge.styleIn_eq_usage_iff {edge : RoutedEdge} {request : Graph} :
    edge.styleIn request = .usage ↔ edge.style = some .usage ∨
      edge.style = none ∧ (request.edge? edge.id).map GraphEdge.style = some .usage := by
  unfold RoutedEdge.styleIn
  cases edge.style with
  | some style => simp
  | none => cases (request.edge? edge.id).map GraphEdge.style <;> simp

namespace Svg

theorem text_eq_nil_of_mem_layoutMarks {layout : DiagramLayout} {request : Graph} {mark : Mark}
    (h : mark ∈ layoutMarks layout request) (other : mark.tag.begins "text" = false) :
    mark.text = [] := by
  simp only [layoutMarks, boxMarks, edgeMarks, List.mem_append, List.mem_cons, List.mem_flatMap,
    List.mem_map, List.not_mem_nil, or_false] at h
  rcases h with (((rfl | ⟨node, -, rfl | rfl | rfl⟩) | ⟨edge, -, route, -, rfl⟩) |
    ⟨tag, -, rfl⟩) | rfl
  case inl.inl.inl.inr.inr.inl => exact absurd other Bool.noConfusion
  all_goals rfl

/-- The marks of a layout show it. -/
theorem shows_layoutMarks (layout : DiagramLayout) (request : Graph) :
    Shows layout request (layoutMarks layout request) where
  tags := by
    simp [layoutMarks, List.map_flatMap, boxMarks, edgeMarks, Function.comp_def]
  labels := by
    simp [filter_text_layoutMarks]
  noText _ := text_eq_nil_of_mem_layoutMarks
  routes := by
    simp [map_path_layoutMarks, readPath?_pathTag]
  dashed := by
    simp [map_path_layoutMarks, isSome_dasharray_pathTag, RoutedEdge.styleIn_eq_usage_iff]

end Svg

/-- What does not look at the ids of the boxes is the same for other ids. -/
theorem DiagramLayout.flatMap_withIds {α : Type} (layout : DiagramLayout) (ids : Nat → String)
    {f : PlacedNode → List α} (h : ∀ node id, f { node with id := id } = f node) :
    (layout.withIds ids).children.flatMap f = layout.children.flatMap f := by
  have map : (layout.withIds ids).children.map f = layout.children.map f :=
    List.ext_getElem (by simp [withIds]) fun i _ _ => by simp [withIds, h]
  rw [List.flatMap_def, List.flatMap_def, map]

/-- The document of a drawing is read as the marks of the layout. -/
theorem Drawing.readMarkup?_toSvg (layout : DiagramLayout) (request : Graph) :
    readMarkup? (Drawing.ofLayout layout request).toSvg.toList =
      some (Svg.layoutMarks layout request) := by
  rw [Drawing.toSvg, String.toList_ofList]
  exact (Svg.writes_write layout request).readMarkup?_eq (List.cons_ne_nil _ _)

/-- The document of a drawing shows the layout, as the answer to a request, and
nothing else; and the tags of the document are the same for any other ids of
the boxes. -/
theorem Drawing.toSvg_shows_layout (layout : DiagramLayout) (request : Graph) :
    ∃ marks, readMarkup? (Drawing.ofLayout layout request).toSvg.toList = some marks ∧
      Svg.Shows layout request marks ∧
      ∀ ids, ∃ others,
        readMarkup? (Drawing.ofLayout (layout.withIds ids) request).toSvg.toList = some others ∧
        others.map Mark.tag = marks.map Mark.tag := by
  refine ⟨_, readMarkup?_toSvg layout request, Svg.shows_layoutMarks layout request,
    fun ids => ⟨_, readMarkup?_toSvg _ request, ?_⟩⟩
  rw [(Svg.shows_layoutMarks _ request).tags, (Svg.shows_layoutMarks layout request).tags]
  rw [layout.flatMap_withIds ids fun node id => rfl]
  rfl

end ClassDiagram
