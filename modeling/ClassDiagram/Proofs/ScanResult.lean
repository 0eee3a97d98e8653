import ClassDiagram.Proofs.Intake

/-!
# What a scan finds

The result of a scan in closed form.  Classes, definitions and inheritance edges
are first occurrences in lists that are read off the sites of the text; the usage
edges follow behind the inheritance edges, and none of them is lost, because
definitions and classes have no duplicates.

Main results:

- Theorem `pairwise_bodyFrom?_declarations`: once a declaration has no body, no later one
  has.
- Theorems `names_scan`, `records_scan` and `entries_scan`: the classes, the
  filed definitions and the relationships that a scan finds.
-/

namespace ClassDiagram

open Text

/-! ## Usage edges -/

theorem mem_usagesIn {ds : List Definition} {classes : ClassSet} {r : Relationship} :
    r ∈ usagesIn ds classes ↔
      ∃ d ∈ ds, ∃ target ∈ classes.names, target ≠ d.name ∧ target.isUsedIn d.body = true ∧
        .usage d.name target = r := by
  simp only [usagesIn, Definition.usages, List.mem_flatMap, List.mem_map, List.mem_filter,
    Bool.and_eq_true, decide_eq_true_eq, and_assoc]

/-- Definitions of different classes give different usage edges. -/
theorem nodup_usagesIn {ds : List Definition} {classes : ClassSet}
    (hds : (ds.map Definition.name).Nodup) (hclasses : classes.names.Nodup) :
    (usagesIn ds classes).Nodup := by
  rw [usagesIn, List.nodup_flatMap]
  constructor
  · intro d _
    apply (hclasses.filter _).map
    intro a b hab
    exact (Relationship.mk.inj hab).2.1
  · have hne : ds.Pairwise fun d e => d.name ≠ e.name := List.pairwise_map.mp hds
    apply hne.imp
    intro d e hde r hd he
    obtain ⟨a, -, rfl⟩ := List.mem_map.mp hd
    obtain ⟨b, -, hb⟩ := List.mem_map.mp he
    exact hde (Relationship.mk.inj hb).1.symm

/-- A log of inheritance edges gains all usage edges, each of them once. -/
theorem entries_pushAll_usagesIn {l : RelationshipLog} {ds : List Definition}
    {classes : ClassSet} (hl : ∀ r ∈ l.entries, r.kind = .inheritance)
    (hds : (ds.map Definition.name).Nodup) (hclasses : classes.names.Nodup) :
    (l.pushAll (usagesIn ds classes)).entries = l.entries ++ usagesIn ds classes := by
  have hloop : ((usagesIn ds classes).filter fun r => r.source ≠ r.target) =
      usagesIn ds classes := by
    rw [List.filter_eq_self]
    intro r hr
    obtain ⟨d, -, target, -, hne, -, rfl⟩ := mem_usagesIn.mp hr
    exact decide_eq_true hne.symm
  have hnew : ((usagesIn ds classes).filter fun r => id r ∉ l.entries.map id) =
      usagesIn ds classes := by
    rw [List.filter_eq_self]
    intro r hr
    obtain ⟨d, -, target, -, -, -, rfl⟩ := mem_usagesIn.mp hr
    have hnot : Relationship.usage d.name target ∉ l.entries := fun hmem => by
      cases hl _ hmem
    simpa using hnot
  rw [RelationshipLog.entries_pushAll, hloop, foldl_appendNew, hnew, firstsBy_eq_self]
  simpa using nodup_usagesIn hds hclasses

/-! ## Sites of one text -/

/-- Once a site has no body, no later one has. -/
theorem pairwise_body_sites (cs : List Char) :
    (sites cs).Pairwise fun x y => x.body? = none → y.body? = none := by
  apply (pairwise_suffix_sites cs).imp
  intro x y hsuffix hnone
  rw [Site.body?, bodyIn?_eq_none_iff] at hnone ⊢
  exact fun hmem => hnone (hsuffix.mem hmem)

/-- Once a declaration has no body, no later one has. -/
theorem pairwise_bodyFrom?_declarations (buffer : List Char) :
    (declarations buffer).Pairwise fun d e =>
      bodyFrom? buffer d.start = none → bodyFrom? buffer e.start = none := by
  rw [declarations_eq_map_sites, List.pairwise_map]
  apply (pairwise_body_sites buffer).imp_of_mem
  intro x y hx hy hnone
  rwa [Site.bodyFrom?_start (suffix_of_mem_sites hx), Site.bodyFrom?_start (suffix_of_mem_sites hy)]

/-- The definitions that the sites of a text give, one for each class. -/
def definitionsIn (cs : List Char) : List Definition :=
  firstsBy Definition.name ((sites cs).filterMap Site.definition?)

theorem nodup_definitionsIn (cs : List Char) : ((definitionsIn cs).map Definition.name).Nodup :=
  nodup_map_firstsBy Definition.name _

/-- The inheritance edges that the sites of a text give, without loops. -/
def inheritancesIn (cs : List Char) : List Relationship :=
  (((sites cs).flatMap Site.inheritance).filter fun r => r.source ≠ r.target).eraseDups

theorem kind_of_mem_inheritancesIn {cs : List Char} {r : Relationship}
    (h : r ∈ inheritancesIn cs) : r.kind = .inheritance := by
  rw [inheritancesIn, List.mem_eraseDups] at h
  obtain ⟨x, -, hx⟩ := List.mem_flatMap.mp (List.mem_of_mem_filter h)
  obtain ⟨supertype, -, rfl⟩ := List.mem_map.mp hx
  rfl

/-! ## The scan -/

/-- A scan takes in the sites of its text and then adds the usages. -/
theorem scan_eq_addUsages (buffer : List Char) :
    scan buffer = (Findings.empty.addSites (sites buffer)).addUsages := by
  rw [scan, Findings.addDeclarations_eq_addSites]

/-- The classes found are those that the sites name, in the order of first sight. -/
theorem names_scan (buffer : List Char) :
    (scan buffer).classes.names = ((sites buffer).flatMap Site.classes).eraseDups := by
  rw [scan_eq_addUsages, Findings.addUsages, Findings.addSites, ClassSet.names_insertAll,
    ← firstsBy_id]
  exact foldl_appendNew_nil id _

theorem fileAll_nil_left (ds : List Definition) :
    Findings.fileAll [] ds = (firstsBy Definition.name ds).map fun d => (d.name, d) := by
  rw [Findings.fileAll, foldl_appendNew_nil, firstsBy_map]
  rfl

/-- The definitions found are the first that the sites give for their classes. -/
theorem records_scan (buffer : List Char) :
    (scan buffer).records = (definitionsIn buffer).map fun d => (d.name, d) := by
  rw [scan_eq_addUsages, Findings.addUsages, Findings.addSites]
  exact fileAll_nil_left _

theorem definitions_scan (buffer : List Char) :
    (scan buffer).definitions = definitionsIn buffer := by
  rw [Findings.definitions, records_scan, List.map_map]
  exact List.map_id _

/-- The relationships found are the inheritance edges and, behind them, all usage
edges from definitions found to classes found. -/
theorem entries_scan (buffer : List Char) :
    (scan buffer).relationships.entries =
      inheritancesIn buffer ++ usagesIn (scan buffer).definitions (scan buffer).classes := by
  have hentries : (Findings.empty.addSites (sites buffer)).relationships.entries =
      inheritancesIn buffer := by
    rw [Findings.addSites, RelationshipLog.entries_pushAll, inheritancesIn, ← firstsBy_id]
    exact foldl_appendNew_nil id _
  have hds : ((scan buffer).definitions.map Definition.name).Nodup := by
    rw [definitions_scan]
    exact nodup_definitionsIn buffer
  have hclasses : (scan buffer).classes.names.Nodup := by
    rw [names_scan, ← firstsBy_id]
    simpa using nodup_map_firstsBy id ((sites buffer).flatMap Site.classes)
  have hkind : ∀ r ∈ (Findings.empty.addSites (sites buffer)).relationships.entries,
      r.kind = .inheritance := by
    rw [hentries]
    exact fun r hr => kind_of_mem_inheritancesIn hr
  rw [← hentries, ← entries_pushAll_usagesIn hkind hds hclasses, scan_eq_addUsages]
  rfl

end ClassDiagram
