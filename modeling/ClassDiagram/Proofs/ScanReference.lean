import ClassDiagram.Proofs.ScanResult

/-!
# What a scan has to find

The findings that are expected of a text, read off its declarations alone:
nothing is accumulated, looked up or left out because it came before.  A scan
finds exactly that.

Main results:

- Theorem `scan_eq_expectedFindings`: a scan finds what is expected of its text.
-/

namespace ClassDiagram

open Text

/-! ## Expectations -/

/-- The classes that declarations name, each where it is named first: a declared
class stands before its supertype. -/
def expectedClasses (ds : List Declaration) : List ClassName :=
  (ds.flatMap fun d => d.name :: d.supertype.toList).eraseDups

/-- For each declared class, at the place of its first declaration, the body that
follows that declaration, if one does. -/
def expectedDefinitions (buffer : List Char) (ds : List Declaration) : List Definition :=
  (ds.eraseDupsBy fun d e => d.name == e.name).filterMap fun d =>
    (bodyFrom? buffer d.start).map fun body => ⟨d.name, body⟩

/-- The edges from supertypes to declared classes, each where it occurs first;
a class that extends itself gives none. -/
def expectedInheritances (ds : List Declaration) : List Relationship :=
  ((ds.flatMap fun d => d.supertype.toList.map fun supertype =>
    Relationship.inheritance supertype d.name).filter fun r => r.source ≠ r.target).eraseDups

/-- The edges from each definition to each other class for which at least one
detector fires on the body. -/
def expectedUsages (definitions : List Definition) (classes : List ClassName) :
    List Relationship :=
  definitions.flatMap fun d =>
    (classes.filter fun target => target ≠ d.name ∧
      (target.isInstantiatedIn d.body ∨ target.isAccessedIn d.body ∨
        target.isMentionedIn d.body)).map (Relationship.usage d.name)

/-- The findings that are expected of a text. -/
def expectedFindings (buffer : List Char) : Findings :=
  let ds := declarations buffer
  let definitions := expectedDefinitions buffer ds
  { classes := ⟨expectedClasses ds⟩
    records := definitions.map fun d => (d.name, d)
    relationships :=
      ⟨expectedInheritances ds ++ expectedUsages definitions (expectedClasses ds)⟩ }

/-! ## Sites and expectations -/

theorem expectedClasses_declarations (buffer : List Char) :
    expectedClasses (declarations buffer) = (scan buffer).classes.names := by
  rw [names_scan, expectedClasses, declarations_eq_map_sites, List.flatMap_map]
  rfl

theorem expectedInheritances_declarations (buffer : List Char) :
    expectedInheritances (declarations buffer) = inheritancesIn buffer := by
  rw [inheritancesIn, expectedInheritances, declarations_eq_map_sites, List.flatMap_map]
  rfl

/-- Taking the first declaration of each class and then its body is the same as
taking the first body for each class, since declarations without a body come last. -/
theorem expectedDefinitions_declarations (buffer : List Char) :
    expectedDefinitions buffer (declarations buffer) = definitionsIn buffer := by
  have hfirst : (declarations buffer).eraseDupsBy (fun d e => d.name == e.name) =
      (firstsBy Site.name (sites buffer)).map fun x => x.declarationIn buffer := by
    rw [declarations_eq_map_sites]
    exact firstsBy_map Declaration.name _ _
  have hbody : ∀ x ∈ firstsBy Site.name (sites buffer),
      ((bodyFrom? buffer (x.declarationIn buffer).start).map fun body =>
        (⟨x.name, body⟩ : Definition)) = x.definition? := by
    intro x hx
    rw [Site.bodyFrom?_start (suffix_of_mem_sites (mem_of_mem_firstsBy hx)), Site.definition?]
  have hkey : ∀ {x d}, Site.definition? x = some d → d.name = x.name := by
    intro x d hx
    obtain ⟨body, -, rfl⟩ := Option.map_eq_some_iff.mp hx
    rfl
  have hnone : (sites buffer).Pairwise fun x y => x.definition? = none → y.definition? = none := by
    simpa only [Site.definition?_eq_none_iff] using pairwise_body_sites buffer
  rw [expectedDefinitions, hfirst, List.filterMap_map, definitionsIn,
    ← filterMap_firstsBy hkey hnone]
  exact List.filterMap_congr hbody

theorem expectedUsages_eq_usagesIn (ds : List Definition) (classes : ClassSet) :
    expectedUsages ds classes.names = usagesIn ds classes := by
  unfold expectedUsages usagesIn Definition.usages
  simp only [Bool.decide_and, ← ClassName.isUsedIn_iff, Bool.decide_eq_true]

/-! ## The scan -/

theorem Findings.eq_of_contents {s t : Findings} (hclasses : s.classes.names = t.classes.names)
    (hrecords : s.records = t.records)
    (hrelationships : s.relationships.entries = t.relationships.entries) : s = t := by
  obtain ⟨⟨_⟩, _, ⟨_⟩⟩ := s
  obtain ⟨⟨_⟩, _, ⟨_⟩⟩ := t
  simp_all

/-- A scan finds what is expected of its text.  A declaration has a body exactly if
an opening brace stands at or after its start, so that declarations without a body
come last. -/
theorem scan_eq_expectedFindings (buffer : List Char) :
    scan buffer = expectedFindings buffer ∧
      (∀ d ∈ declarations buffer, (bodyFrom? buffer d.start).isSome = true ↔
        ∃ before behind, buffer = before ++ '{' :: behind ∧ d.start ≤ byteLength before) ∧
      (declarations buffer).Pairwise fun d e =>
        bodyFrom? buffer d.start = none → bodyFrom? buffer e.start = none := by
  have hfound : scan buffer = expectedFindings buffer := by
    apply Findings.eq_of_contents
    · exact (expectedClasses_declarations buffer).symm
    · rw [records_scan, ← expectedDefinitions_declarations]
      rfl
    · rw [entries_scan, definitions_scan, ← expectedInheritances_declarations,
        ← expectedDefinitions_declarations, ← expectedUsages_eq_usagesIn,
        ← expectedClasses_declarations]
      rfl
  refine ⟨hfound, ?_, ?_⟩
  · intro d hd
    rw [declarations_eq_map_sites] at hd
    obtain ⟨x, hx, rfl⟩ := List.mem_map.mp hd
    have hsuffix := suffix_of_mem_sites hx
    rw [Site.bodyFrom?_start hsuffix, Site.body?, Option.isSome_iff_ne_none, Ne,
      bodyIn?_eq_none_iff, not_not]
    obtain ⟨lead, hlead⟩ := hsuffix
    rw [← hlead, Site.start_declarationIn]
    exact mem_iff_exists_byteLength_le
  · exact pairwise_bodyFrom?_declarations buffer

end ClassDiagram
