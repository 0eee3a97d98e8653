import ClassDiagram.Proofs.Integrity
import ClassDiagram.Source.Report

/-!
# Integrity of diagrams

A layout engine rejects a graph whose edges name missing boxes, and mixes up
edges that look the same.  This module says what a graph has to satisfy and
proves it of the diagram of any texts.  The names in a diagram are read off the
texts without being checked afterwards; that they would pass the check is part of
the statement.

Main results:

- Theorem `Graph.wellFormed_ofScan`: proper and closed findings give a
  well-formed graph.
- Theorem `wellFormed_graphOfTexts`: the diagram of any texts is well formed.
-/

namespace ClassDiagram

/-! ## Names and tags as text -/

theorem ClassName.toList_toString (n : ClassName) : n.toString.toList = n.letters :=
  String.toList_ofList

/-- Different names are written differently. -/
theorem ClassName.toString_injective : Function.Injective ClassName.toString := by
  intro n m h
  have hletters : n.letters = m.letters := by
    rw [← toList_toString, ← toList_toString, h]
  cases n
  cases m
  cases hletters
  rfl

/-- A name passes the check for names. -/
theorem ClassName.ofString?_toString (n : ClassName) : ofString? n.toString = some n := by
  have hname : isName n.toString.toList = true := by
    rw [toList_toString]
    exact n.isName_letters
  rw [ofString?, dif_pos hname, Option.some.injEq]
  apply toString_injective
  rw [toString, String.ofList_toList]

theorem RelationshipKind.label_inj {k m : RelationshipKind} : k.label = m.label ↔ k = m := by
  cases k <;> cases m <;> decide

/-- An edge id ends in the tag of its kind and of no other. -/
theorem Relationship.tag_suffix_edgeId_iff (r : Relationship) (k : RelationshipKind) :
    ("_" ++ k.tag).toList <:+ r.edgeId.toList ↔ r.kind = k := by
  have hown : ("_" ++ r.kind.tag).toList <:+ r.edgeId.toList := by
    refine ⟨(r.source.toString ++ "_" ++ r.target.toString).toList, ?_⟩
    rw [← String.toList_append, ← String.append_assoc]
    rfl
  constructor
  · intro h
    -- Two tags at the end of one id would have to end in each other.
    have hnested := List.suffix_or_suffix_of_suffix h hown
    generalize r.kind = m at hnested ⊢
    revert hnested
    cases k <;> cases m <;> decide
  · rintro rfl
    exact hown

/-! ## Well-formed graphs -/

/-- What a graph has to satisfy to be laid out: its boxes are told apart by ids that
are class names, and every edge leads from one box to another, with a caption and an
id that fit its style and no second edge of the same style beside it. -/
structure Graph.WellFormed (g : Graph) : Prop where
  nodup_ids : (g.children.map GraphNode.id).Nodup
  id_valid : ∀ node ∈ g.children, (ClassName.ofString? node.id).isSome = true
  ends : ∀ e ∈ g.edges, ∃ source target, e.sources = [source] ∧ e.targets = [target] ∧
    source ∈ g.children.map GraphNode.id ∧ target ∈ g.children.map GraphNode.id ∧
    source ≠ target
  nodup_edges : (g.edges.map fun e => (e.sources, e.targets, e.style)).Nodup
  labels_iff : ∀ e ∈ g.edges, ∀ kind, e.labels = [⟨kind.label⟩] ↔ e.style = kind
  id_suffix_iff : ∀ e ∈ g.edges, ∀ kind,
    ("_" ++ kind.tag).toList <:+ e.id.toList ↔ e.style = kind

namespace Graph

theorem ids_ofScan (found : Findings) :
    (ofScan found).children.map GraphNode.id = found.classes.names.map ClassName.toString := by
  simp only [ofScan, ofClasses, List.map_map]
  rfl

/-- Proper and closed findings give a well-formed graph. -/
theorem wellFormed_ofScan {found : Findings} (hproper : found.Proper) (hclosed : found.Closed) :
    (ofScan found).WellFormed where
  nodup_ids := by
    rw [ids_ofScan]
    exact hproper.nodup_names.map ClassName.toString_injective
  id_valid := by
    intro node hnode
    obtain ⟨n, -, rfl⟩ := List.mem_map.mp hnode
    rw [GraphNode.ofClass, ClassName.ofString?_toString]
    rfl
  ends := by
    intro e he
    obtain ⟨r, hr, rfl⟩ := List.mem_map.mp he
    rw [ids_ofScan]
    refine ⟨r.source.toString, r.target.toString, rfl, rfl, ?_, ?_, ?_⟩
    · exact List.mem_map_of_mem (hclosed.source_mem r hr)
    · exact List.mem_map_of_mem (hclosed.target_mem r hr)
    · exact fun h => hproper.source_ne_target r hr (ClassName.toString_injective h)
  nodup_edges := by
    have hinjective : Function.Injective fun r : Relationship =>
        ([r.source.toString], [r.target.toString], r.kind) := by
      intro r q h
      obtain ⟨hsource, htarget, hkind⟩ := by simpa using h
      have hs := ClassName.toString_injective hsource
      have ht := ClassName.toString_injective htarget
      cases r
      cases q
      simp_all
    simp only [ofScan, ofClasses, List.map_map]
    exact hproper.nodup_entries.map hinjective
  labels_iff := by
    intro e he kind
    obtain ⟨r, -, rfl⟩ := List.mem_map.mp he
    simp [GraphEdge.ofRelationship, RelationshipKind.label_inj]
  id_suffix_iff := by
    intro e he kind
    obtain ⟨r, -, rfl⟩ := List.mem_map.mp he
    exact r.tag_suffix_edgeId_iff kind

end Graph

/-- The diagram of any texts is well formed. -/
theorem wellFormed_graphOfTexts (texts : List String) : (graphOfTexts texts).WellFormed :=
  Graph.wellFormed_ofScan (proper_scan _) (closed_scan _)

end ClassDiagram
