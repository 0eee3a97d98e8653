import ClassDiagram.Graph.Json
import ClassDiagram.Proofs.GraphIntegrity

/-!
# Ids in layout requests

A layout request names its root, its boxes and its edges by ids.  The id of an edge joins
the names of two classes and a tag by underscores, which the names may contain themselves,
and the id of a box is the name of its class, whatever that is.  So two ids may agree.

This module says exactly when they do.  Two relationships have one id if they are of the
same kind and the front of the one target, up to an underscore, stands at the end of the
other source.  The id of an edge is never that of the root, but a class may be called like
the root or like an edge.

Main results:

- Theorem `Relationship.edgeId_eq_iff`: when two relationships have the same id.
- Theorem `Graph.WellFormed.forall_edge?_iff`: when every edge is found by its id.
- Theorem `LayoutRequest.nodup_ids_ofScan_iff`: when all ids in a request are different.
- Theorem `ids_graphOfTexts`: these statements for the diagram of any texts, with a simple
  condition under which no two ids agree.
-/

namespace ClassDiagram

/-! ## Ids of relationships -/

namespace Relationship

variable {r q : Relationship}

/-- The second relationship arises from the first by moving the front of the target, up to
an underscore, to the end of the source. -/
def ShiftsTo (r q : Relationship) : Prop :=
  r.kind = q.kind ∧ ∃ part, q.source.letters = r.source.letters ++ '_' :: part ∧
    r.target.letters = part ++ '_' :: q.target.letters

theorem toList_edgeId (r : Relationship) :
    r.edgeId.toList =
      (r.source.letters ++ '_' :: r.target.letters) ++ '_' :: r.kind.tag.toList := by
  simp [edgeId, ClassName.toList_toString]

/-- The tag at the end of an id tells the kind. -/
theorem kind_eq_of_edgeId_eq (h : r.edgeId = q.edgeId) : r.kind = q.kind := by
  apply Eq.symm
  rw [← q.tag_suffix_edgeId_iff, ← h, r.tag_suffix_edgeId_iff]

theorem edgeId_eq_iff_joined :
    r.edgeId = q.edgeId ↔ r.kind = q.kind ∧
      r.source.letters ++ '_' :: r.target.letters =
        q.source.letters ++ '_' :: q.target.letters := by
  constructor
  · intro h
    have hkind := kind_eq_of_edgeId_eq h
    have hletters := congrArg String.toList h
    rw [toList_edgeId, toList_edgeId, hkind] at hletters
    exact ⟨hkind, List.append_cancel_right hletters⟩
  · rintro ⟨hkind, hjoined⟩
    apply String.toList_injective
    rw [toList_edgeId, toList_edgeId, hkind, hjoined]

theorem ext_letters (hsource : r.source.letters = q.source.letters)
    (htarget : r.target.letters = q.target.letters) (hkind : r.kind = q.kind) : r = q := by
  obtain ⟨⟨rs, _⟩, ⟨rt, _⟩, rk⟩ := r
  obtain ⟨⟨qs, _⟩, ⟨qt, _⟩, qk⟩ := q
  cases hsource
  cases htarget
  cases hkind
  rfl

/-- If one source is the front of the other, the relationships with one id are the same or
one arises from the other. -/
theorem eq_or_shiftsTo {part : List Char} (hkind : r.kind = q.kind)
    (hsource : q.source.letters = r.source.letters ++ part)
    (htarget : '_' :: r.target.letters = part ++ '_' :: q.target.letters) :
    r = q ∨ r.ShiftsTo q := by
  cases part with
  | nil =>
      left
      rw [List.append_nil] at hsource
      exact ext_letters hsource.symm (List.cons.inj htarget).2 hkind
  | cons c part =>
      right
      rw [List.cons_append, List.cons.injEq] at htarget
      obtain ⟨rfl, htarget⟩ := htarget
      exact ⟨hkind, part, hsource, htarget⟩

/-- Two relationships have the same id if they are the same, or if one arises from the
other by moving a part of the target to the source. -/
theorem edgeId_eq_iff : r.edgeId = q.edgeId ↔ r = q ∨ r.ShiftsTo q ∨ q.ShiftsTo r := by
  rw [edgeId_eq_iff_joined]
  constructor
  · rintro ⟨hkind, hjoined⟩
    rcases List.append_eq_append_iff.mp hjoined with
      ⟨part, hsource, htarget⟩ | ⟨part, hsource, htarget⟩
    · exact (eq_or_shiftsTo hkind hsource htarget).imp_right Or.inl
    · exact (eq_or_shiftsTo hkind.symm hsource htarget).imp Eq.symm Or.inr
  · rintro (rfl | ⟨hkind, part, hsource, htarget⟩ | ⟨hkind, part, hsource, htarget⟩)
    · exact ⟨rfl, rfl⟩
    · exact ⟨hkind, by rw [hsource, htarget, List.append_assoc, List.cons_append]⟩
    · exact ⟨hkind.symm, by rw [hsource, htarget, List.append_assoc, List.cons_append]⟩

theorem ShiftsTo.ne (h : r.ShiftsTo q) : r ≠ q := by
  rintro rfl
  obtain ⟨-, part, hsource, -⟩ := h
  have := congrArg List.length hsource
  simp at this

theorem ShiftsTo.underscore_mem (h : r.ShiftsTo q) : '_' ∈ q.source.letters := by
  obtain ⟨-, part, hsource, -⟩ := h
  rw [hsource]
  simp

end Relationship

/-- No relationship in the log arises from another one there by moving a part of the target
to the source. -/
def RelationshipLog.Unshifted (l : RelationshipLog) : Prop :=
  ∀ r ∈ l.entries, ∀ q ∈ l.entries, ¬ r.ShiftsTo q

/-! ## Edges of one id -/

namespace Graph

variable {classes : ClassSet} {relationships : List Relationship} {found : Findings}

/-- Looking for the id of an edge finds an edge with that id. -/
theorem exists_edge?_of_mem {g : Graph} {e : GraphEdge} (he : e ∈ g.edges) :
    ∃ first ∈ g.edges, g.edge? e.id = some first ∧ first.id = e.id := by
  cases hfirst : g.edge? e.id with
  | none =>
      have hnone := List.find?_eq_none.mp hfirst e he
      simp at hnone
  | some first =>
      have hid := List.find?_some hfirst
      exact ⟨first, List.mem_of_find?_eq_some hfirst, rfl, by simpa using hid⟩

/-- Edges of one id have one style. -/
theorem style_eq_of_id_eq {e e' : GraphEdge} (he : e ∈ (ofClasses classes relationships).edges)
    (he' : e' ∈ (ofClasses classes relationships).edges) (hid : e.id = e'.id) :
    e.style = e'.style := by
  obtain ⟨r, -, rfl⟩ := List.mem_map.mp he
  obtain ⟨q, -, rfl⟩ := List.mem_map.mp he'
  exact Relationship.kind_eq_of_edgeId_eq hid

theorem edgeIds_ofScan (found : Findings) :
    (ofScan found).edges.map GraphEdge.id =
      found.relationships.entries.map Relationship.edgeId := by
  simp only [ofScan, ofClasses, List.map_map]
  rfl

/-- The ids of edges are all different unless one relationship arises from another. -/
theorem nodup_edgeIds_ofScan_iff (hproper : found.Proper) :
    ((ofScan found).edges.map GraphEdge.id).Nodup ↔ found.relationships.Unshifted := by
  rw [edgeIds_ofScan, List.nodup_map_iff_inj_on hproper.nodup_entries]
  constructor
  · intro hinj r hr q hq hshifts
    exact hshifts.ne (hinj r hr q hq (Relationship.edgeId_eq_iff.mpr (Or.inr (Or.inl hshifts))))
  · intro hnone r hr q hq hid
    rcases Relationship.edgeId_eq_iff.mp hid with heq | hshifts | hshifts
    · exact heq
    · exact absurd hshifts (hnone r hr q hq)
    · exact absurd hshifts (hnone q hq r hr)

/-- Every edge is found by its id if and only if the ids are all different. -/
theorem WellFormed.forall_edge?_iff {g : Graph} (h : g.WellFormed) :
    (∀ e ∈ g.edges, g.edge? e.id = some e) ↔ (g.edges.map GraphEdge.id).Nodup := by
  have hedges : g.edges.Nodup := h.nodup_edges.of_map _
  rw [List.nodup_map_iff_inj_on hedges]
  constructor
  · intro hfound e he e' he' hid
    have hsome := hfound e he
    rw [hid, hfound e' he'] at hsome
    exact (Option.some.inj hsome).symm
  · intro hinj e he
    obtain ⟨first, hfirst, hedge, hid⟩ := exists_edge?_of_mem he
    rw [hedge, hinj first hfirst e he hid]

end Graph

/-! ## Ids in a request -/

namespace LayoutRequest

/-- The ids of the root, the boxes and the edges in the request for a graph. -/
def ids (g : Graph) : List String :=
  rootId :: (g.children.map GraphNode.id ++ g.edges.map GraphEdge.id)

/-- No edge has the id of the root. -/
theorem rootId_ne_edgeId (r : Relationship) : rootId ≠ r.edgeId := by
  intro h
  have hmem : '_' ∈ r.edgeId.toList := by simp [Relationship.toList_edgeId]
  rw [← h] at hmem
  exact absurd hmem (by decide)

theorem ids_ofScan (found : Findings) :
    ids (.ofScan found) = rootId :: (found.classes.names.map ClassName.toString ++
      found.relationships.entries.map Relationship.edgeId) := by
  rw [ids, Graph.ids_ofScan, Graph.edgeIds_ofScan]

end LayoutRequest

/-- No class is called like the root of a request or like an edge. -/
def Findings.NamesApart (found : Findings) : Prop :=
  ∀ n ∈ found.classes.names, n.toString ≠ LayoutRequest.rootId ∧
    ∀ r ∈ found.relationships.entries, n.toString ≠ r.edgeId

/-- The ids in a request are all different if and only if no class is called like the root
or an edge, and no relationship arises from another. -/
theorem LayoutRequest.nodup_ids_ofScan_iff {found : Findings} (hproper : found.Proper) :
    (ids (.ofScan found)).Nodup ↔ found.NamesApart ∧ found.relationships.Unshifted := by
  have hroot : ∀ id ∈ found.relationships.entries.map Relationship.edgeId, rootId ≠ id := by
    simpa only [List.forall_mem_map] using fun r _ => rootId_ne_edgeId r
  have hnames : (found.classes.names.map ClassName.toString).Nodup :=
    hproper.nodup_names.map ClassName.toString_injective
  rw [ids_ofScan, List.nodup_cons, List.nodup_append, ← Graph.edgeIds_ofScan,
    Graph.nodup_edgeIds_ofScan_iff hproper, Graph.edgeIds_ofScan]
  constructor
  · rintro ⟨hfirst, -, hunshifted, hapart⟩
    refine ⟨fun n hn => ⟨?_, fun r hr => ?_⟩, hunshifted⟩
    · rintro hname
      exact hfirst (List.mem_append_left _ (hname ▸ List.mem_map_of_mem hn))
    · exact hapart _ (List.mem_map_of_mem hn) _ (List.mem_map_of_mem hr)
  · rintro ⟨hapart, hunshifted⟩
    refine ⟨?_, hnames, hunshifted, ?_⟩
    · intro hmem
      rcases List.mem_append.mp hmem with hmem | hmem
      · obtain ⟨n, hn, hname⟩ := List.mem_map.mp hmem
        exact (hapart n hn).1 hname
      · exact hroot _ hmem rfl
    · simp only [List.forall_mem_map]
      exact fun n hn => (hapart n hn).2

/-- Names without underscores are not called like an edge, and no part of them can move. -/
theorem Findings.apart_of_no_underscore {found : Findings} (hclosed : found.Closed)
    (h : ∀ n ∈ found.classes.names, n.toString ≠ LayoutRequest.rootId ∧ '_' ∉ n.letters) :
    found.NamesApart ∧ found.relationships.Unshifted := by
  constructor
  · refine fun n hn => ⟨(h n hn).1, fun r _ hname => (h n hn).2 ?_⟩
    rw [← n.toList_toString, hname, Relationship.toList_edgeId]
    simp
  · intro r _ q hq hshifts
    exact (h _ (hclosed.source_mem q hq)).2 hshifts.underscore_mem

/-- The ids in the request for the diagram of any texts.  Boxes are told apart by their
ids, and so are the root and the edges.  Two relationships share an id exactly if they are
the same or one arises from the other by moving the front of its target to its source.  All
ids are different if and only if nothing of the kind happens and no class is called like the
root or like an edge, and every edge is found by its id if and only if nothing of the kind
happens; what is found has the right style in any case.  Where no class is called like the
root and no name has an underscore, there is no ambiguity. -/
theorem ids_graphOfTexts (texts : List String) :
    ((graphOfTexts texts).children.map GraphNode.id).Nodup ∧
      LayoutRequest.rootId ∉ (graphOfTexts texts).edges.map GraphEdge.id ∧
      (∀ r q : Relationship, r.edgeId = q.edgeId ↔ r = q ∨ r.ShiftsTo q ∨ q.ShiftsTo r) ∧
      ((LayoutRequest.ids (graphOfTexts texts)).Nodup ↔
        (scan (bufferOfTexts texts)).NamesApart ∧
          (scan (bufferOfTexts texts)).relationships.Unshifted) ∧
      ((∀ e ∈ (graphOfTexts texts).edges, (graphOfTexts texts).edge? e.id = some e) ↔
        (scan (bufferOfTexts texts)).relationships.Unshifted) ∧
      (∀ e ∈ (graphOfTexts texts).edges, ∃ first ∈ (graphOfTexts texts).edges,
        (graphOfTexts texts).edge? e.id = some first ∧ first.id = e.id ∧ first.style = e.style) ∧
      ((∀ n ∈ (scan (bufferOfTexts texts)).classes.names,
          n.toString ≠ LayoutRequest.rootId ∧ '_' ∉ n.letters) →
        (LayoutRequest.ids (graphOfTexts texts)).Nodup ∧
          ∀ e ∈ (graphOfTexts texts).edges, (graphOfTexts texts).edge? e.id = some e) := by
  have hproper := proper_scan (bufferOfTexts texts)
  have hclosed := closed_scan (bufferOfTexts texts)
  have hwell := Graph.wellFormed_ofScan hproper hclosed
  have hids : (LayoutRequest.ids (graphOfTexts texts)).Nodup ↔ _ :=
    LayoutRequest.nodup_ids_ofScan_iff hproper
  have hlookup : (∀ e ∈ (graphOfTexts texts).edges, (graphOfTexts texts).edge? e.id = some e) ↔ _ :=
    hwell.forall_edge?_iff.trans (Graph.nodup_edgeIds_ofScan_iff hproper)
  refine ⟨hwell.nodup_ids, ?_, fun r q => Relationship.edgeId_eq_iff, hids, hlookup, ?_, ?_⟩
  · rw [graphOfTexts, Graph.edgeIds_ofScan]
    intro hmem
    obtain ⟨r, -, hr⟩ := List.mem_map.mp hmem
    exact LayoutRequest.rootId_ne_edgeId r hr.symm
  · intro e he
    obtain ⟨first, hfirst, hedge, hid⟩ := Graph.exists_edge?_of_mem he
    exact ⟨first, hfirst, hedge, hid, Graph.style_eq_of_id_eq hfirst he hid⟩
  · intro h
    obtain ⟨hapart, hunshifted⟩ := Findings.apart_of_no_underscore hclosed h
    exact ⟨hids.mpr ⟨hapart, hunshifted⟩, hlookup.mpr hunshifted⟩

/-- A class that uses another one, with names in one word. -/
def penTexts : List String :=
  ["class Pen { Hen hen; }", "class Hen { }"]

theorem ids_penTexts :
    (∀ n ∈ (scan (bufferOfTexts penTexts)).classes.names,
        n.toString ≠ LayoutRequest.rootId ∧ '_' ∉ n.letters) ∧
      (LayoutRequest.ids (graphOfTexts penTexts)).Nodup ∧
      ∀ e ∈ (graphOfTexts penTexts).edges, (graphOfTexts penTexts).edge? e.id = some e := by
  have hnames : ∀ n ∈ (scan (bufferOfTexts penTexts)).classes.names,
      n.toString ≠ LayoutRequest.rootId ∧ '_' ∉ n.letters := by decide +kernel
  obtain ⟨-, -, -, -, -, -, hclear⟩ := ids_graphOfTexts penTexts
  exact ⟨hnames, hclear hnames⟩

/-- Two uses that share an id, and a class that is called like the root. -/
def clashingTexts : List String :=
  ["class Sheep_Dog { Food food; }", "class Sheep { Dog_Food food; }", "class Food { }",
    "class Dog_Food { }", "class root { }"]

/-- The ids in the request for a diagram may agree, and an edge may not be found by its id. -/
theorem ids_clashingTexts :
    LayoutRequest.rootId ∈ (graphOfTexts clashingTexts).children.map GraphNode.id ∧
      ¬ ((graphOfTexts clashingTexts).edges.map GraphEdge.id).Nodup ∧
      ¬ (LayoutRequest.ids (graphOfTexts clashingTexts)).Nodup ∧
      ∃ e ∈ (graphOfTexts clashingTexts).edges,
        (graphOfTexts clashingTexts).edge? e.id ≠ some e := by
  decide +kernel

end ClassDiagram
