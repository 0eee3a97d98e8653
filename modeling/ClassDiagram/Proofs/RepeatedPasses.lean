import ClassDiagram.Proofs.ScanSteps

/-!
# Passes that are made again

A pass adds what is not there yet.  Once the declarations of a text are taken in, findings
hold all that the text gives: its classes, a definition for each class that has a body in
it, and its inheritance edges.  Whatever is done afterwards, they go on holding it, so
taking in the text again changes nothing.  Usage edges depend on definitions and classes
alone, so adding them again changes nothing either.

Main results:

- Theorem `Findings.Holds.addSites_eq_self`: sites add nothing to findings that hold what
  they give.
- Theorem `Findings.Holds.run`: findings go on holding it through any steps.
- Theorem `Findings.passes_idempotent`: either pass, and the pair of them, can be made
  again without any change.
-/

namespace ClassDiagram

namespace Findings

variable {s t : Findings} {xs : List Site}

/-! ## What sites give -/

/-- The findings hold all that the sites give: the classes, some definition for each class
that the sites define, and the inheritance edges that are no loops. -/
structure Holds (s : Findings) (xs : List Site) : Prop where
  class_mem : ∀ name ∈ xs.flatMap Site.classes, name ∈ s.classes.names
  defined : ∀ d ∈ xs.filterMap Site.definition?, s.defines d.name = true
  edge_mem : ∀ r ∈ xs.flatMap Site.inheritance, r.source ≠ r.target →
    r ∈ s.relationships.entries

/-- Sites that are taken in are held. -/
theorem holds_addSites (s : Findings) (xs : List Site) : (s.addSites xs).Holds xs where
  class_mem _ hname := ClassSet.mem_names_insertAll.mpr (Or.inr hname)
  defined d hd := by
    rw [defines_iff]
    apply mem_keys_foldl_appendNew.mpr
    rw [List.map_map]
    exact Or.inr (List.mem_map_of_mem hd)
  edge_mem _ hr hne := RelationshipLog.mem_entries_pushAll.mpr (Or.inr ⟨hr, hne⟩)

/-- Sites add nothing to findings that hold what they give. -/
theorem Holds.addSites_eq_self (h : s.Holds xs) : s.addSites xs = s := by
  have hclasses : s.classes.insertAll (xs.flatMap Site.classes) = s.classes :=
    ClassSet.insertAll_eq_self h.class_mem
  have hrecords : fileAll s.records (xs.filterMap Site.definition?) = s.records := by
    apply foldl_appendNew_eq_self
    intro p hp
    obtain ⟨d, hd, rfl⟩ := List.mem_map.mp hp
    exact defines_iff.mp (h.defined d hd)
  have hrelationships : s.relationships.pushAll (xs.flatMap Site.inheritance) = s.relationships :=
    RelationshipLog.pushAll_eq_self h.edge_mem
  rw [addSites, hclasses, hrecords, hrelationships]

/-! ## Findings that go on holding it -/

/-- Findings that have grown hold what they held before. -/
theorem Holds.of_grows (h : s.Holds xs) (hgrows : s.Grows t)
    (hdefines : ∀ name, s.defines name = true → t.defines name = true) : t.Holds xs where
  class_mem name hname := hgrows.names_prefix.subset (h.class_mem name hname)
  defined d hd := hdefines d.name (h.defined d hd)
  edge_mem r hr hne := hgrows.entries_prefix.subset (h.edge_mem r hr hne)

/-- No step takes the definition of a class away. -/
theorem defines_step {name : ClassName} (h : s.defines name = true) (next : Step) :
    (s.step next).defines name = true := by
  rw [defines_iff] at h ⊢
  cases next with
  | pass p =>
      cases p with
      | declarations buffer =>
          exact ((records_prefix_addDeclarations s buffer).map Prod.fst).subset h
      | usages => exact h
  | addClass name => exact h
  | putDefinition new =>
      rw [step, keys_putDefinition]
      split
      · exact h
      · exact List.mem_append_left _ h
  | addRelationship r => exact h

theorem Holds.step (h : s.Holds xs) (next : Step) : (s.step next).Holds xs :=
  h.of_grows (grows_step s next) fun _ hname => defines_step hname next

/-- Findings go on holding what sites give, whatever steps are taken. -/
theorem Holds.run (h : s.Holds xs) (steps : List Step) : (s.run steps).Holds xs := by
  induction steps generalizing s with
  | nil => exact h
  | cons next steps ih => exact ih (h.step next)

/-! ## Passes made again -/

/-- The declarations of a text add nothing once they have been taken in, also after further
steps. -/
theorem addDeclarations_run (s : Findings) (buffer : List Char) (steps : List Step) :
    ((s.addDeclarations buffer).run steps).addDeclarations buffer =
      (s.addDeclarations buffer).run steps := by
  rw [addDeclarations_eq_addSites s, addDeclarations_eq_addSites]
  exact ((holds_addSites s (sites buffer)).run steps).addSites_eq_self

/-- Usage edges add nothing once they have been added: they come from definitions and
classes, which stay as they are. -/
theorem addUsages_addUsages (s : Findings) : s.addUsages.addUsages = s.addUsages := by
  have hpushed : (s.relationships.pushAll (usagesIn s.definitions s.classes)).pushAll
      (usagesIn s.definitions s.classes) =
        s.relationships.pushAll (usagesIn s.definitions s.classes) :=
    RelationshipLog.pushAll_pushAll _ _
  exact congrArg (fun log => { s with relationships := log }) hpushed

/-- Passes can be made again without any change, whatever the findings were before: taking
in the declarations of a text, adding the usage edges, and the one after the other. -/
theorem passes_idempotent (s : Findings) (buffer : List Char) :
    (s.addDeclarations buffer).addDeclarations buffer = s.addDeclarations buffer ∧
    s.addUsages.addUsages = s.addUsages ∧
    ((s.addDeclarations buffer).addUsages.addDeclarations buffer).addUsages =
      (s.addDeclarations buffer).addUsages := by
  have hpair : (s.addDeclarations buffer).addUsages.addDeclarations buffer =
      (s.addDeclarations buffer).addUsages :=
    addDeclarations_run s buffer [.pass .usages]
  exact ⟨addDeclarations_run s buffer [], addUsages_addUsages s,
    by rw [hpair, addUsages_addUsages]⟩

end Findings

end ClassDiagram
