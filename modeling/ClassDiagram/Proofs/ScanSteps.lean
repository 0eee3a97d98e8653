import ClassDiagram.Proofs.Integrity
import ClassDiagram.Proofs.ScanResult

/-!
# Findings gathered step by step

Findings need not come from one scan.  Texts can be taken in one after the other, usage
edges be added at any moment, and single classes, definitions and relationships be put in
by hand, all in any order.  The three containers stay proper whatever is done, and classes
and relationships only ever grow at their ends.  References stay closed as long as nothing
is put in by hand.

Main results:

- Theorem `Findings.Sound.run`: no steps spoil the containers.
- Theorem `Findings.grows_run`: steps only append to classes and relationships.
- Theorem `Findings.sound_run_empty`: what holds of findings after any steps, and what a
  further step does to them.
-/

namespace ClassDiagram

namespace Findings

/-! ## Steps -/

/-- A pass over a text or over the findings. -/
inductive Pass
  /-- The declarations of a text are taken in. -/
  | declarations (buffer : List Char)
  /-- The usage edges from the definitions to the classes are added. -/
  | usages

/-- A step in gathering findings. -/
inductive Step
  | pass (p : Pass)
  | addClass (name : ClassName)
  /-- A definition is filed under its own name. -/
  | putDefinition (new : Definition)
  | addRelationship (r : Relationship)

/-- Makes a pass. -/
def afterPass (s : Findings) : Pass → Findings
  | .declarations buffer => s.addDeclarations buffer
  | .usages => s.addUsages

/-- Takes a step. -/
def step (s : Findings) : Step → Findings
  | .pass p => s.afterPass p
  | .addClass name => s.addClass name
  | .putDefinition new => s.putDefinition new
  | .addRelationship r => s.addRelationship r

/-- Takes steps one after the other. -/
def run (s : Findings) (steps : List Step) : Findings :=
  steps.foldl step s

@[simp] theorem run_nil (s : Findings) : s.run [] = s := rfl

@[simp] theorem run_cons (s : Findings) (next : Step) (steps : List Step) :
    s.run (next :: steps) = (s.step next).run steps := rfl

variable {s t u : Findings}

/-! ## Definitions put in by hand -/

/-- Filing a definition keeps the keys, and adds its own at the end if it is new. -/
theorem keys_putDefinition (s : Findings) (new : Definition) :
    (s.putDefinition new).records.map Prod.fst =
      if s.defines new.name then s.records.map Prod.fst
      else s.records.map Prod.fst ++ [new.name] := by
  unfold putDefinition
  split
  · rw [List.map_map]
    apply List.map_congr_left
    intro old _
    by_cases hold : old.1 = new.name <;> simp [hold]
  · rw [List.map_append]
    rfl

/-- A definition that is filed is the one put in or was filed before. -/
theorem mem_records_putDefinition {new : Definition} {p : ClassName × Definition}
    (h : p ∈ (s.putDefinition new).records) : p ∈ s.records ∨ p = (new.name, new) := by
  unfold putDefinition at h
  split at h
  · obtain ⟨old, hold, rfl⟩ := List.mem_map.mp h
    split
    · exact Or.inr rfl
    · exact Or.inl hold
  · rcases List.mem_append.mp h with h | h
    · exact Or.inl h
    · exact Or.inr (List.mem_singleton.mp h)

theorem Proper.putDefinition (h : s.Proper) (new : Definition) :
    (s.putDefinition new).Proper where
  nodup_names := h.nodup_names
  nodup_entries := h.nodup_entries
  source_ne_target := h.source_ne_target
  name_eq_key := by
    intro p hp
    rcases mem_records_putDefinition hp with hp | rfl
    · exact h.name_eq_key p hp
    · rfl

/-! ## Containers that stay sound -/

/-- The containers are proper, and no class has two definitions. -/
structure Sound (s : Findings) : Prop extends s.Proper where
  nodup_keys : (s.records.map Prod.fst).Nodup

theorem sound_empty : empty.Sound :=
  ⟨proper_empty, List.nodup_nil⟩

/-- Filing definitions under new keys only keeps the keys apart. -/
theorem nodup_keys_fileAll {records : List (ClassName × Definition)}
    (h : (records.map Prod.fst).Nodup) (ds : List Definition) :
    ((fileAll records ds).map Prod.fst).Nodup := by
  rw [fileAll, foldl_appendNew, List.map_append, List.nodup_append]
  refine ⟨h, nodup_map_firstsBy Prod.fst _, ?_⟩
  rintro key hkey _ hnew rfl
  obtain ⟨p, hp, rfl⟩ := List.mem_map.mp hnew
  have hfresh := (List.mem_filter.mp (mem_of_mem_firstsBy hp)).2
  exact of_decide_eq_true hfresh hkey

theorem nodup_keys_putDefinition (h : (s.records.map Prod.fst).Nodup) (new : Definition) :
    ((s.putDefinition new).records.map Prod.fst).Nodup := by
  rw [keys_putDefinition]
  split
  next => exact h
  next hnew =>
    rw [defines_iff] at hnew
    refine List.nodup_append.mpr ⟨h, List.nodup_singleton _, ?_⟩
    rintro key hkey _ hlast rfl
    rw [List.mem_singleton.mp hlast] at hkey
    exact hnew hkey

theorem Sound.step (h : s.Sound) (next : Step) : (s.step next).Sound := by
  cases next with
  | pass p =>
      cases p with
      | declarations buffer =>
          refine ⟨h.toProper.addDeclarations buffer, ?_⟩
          rw [Findings.step, afterPass, addDeclarations_eq_addSites]
          exact nodup_keys_fileAll h.nodup_keys _
      | usages => exact ⟨h.toProper.addUsages, h.nodup_keys⟩
  | addClass name => exact ⟨h.toProper.addClass name, h.nodup_keys⟩
  | putDefinition new =>
      exact ⟨h.toProper.putDefinition new, nodup_keys_putDefinition h.nodup_keys new⟩
  | addRelationship r => exact ⟨h.toProper.addRelationship r, h.nodup_keys⟩

/-- No steps spoil the containers. -/
theorem Sound.run (h : s.Sound) (steps : List Step) : (s.run steps).Sound := by
  induction steps generalizing s with
  | nil => exact h
  | cons next steps ih => exact ih (h.step next)

/-! ## Containers that grow at their ends -/

/-- The second findings have the classes and the relationships of the first, in their
places, and possibly more behind them. -/
structure Grows (s t : Findings) : Prop where
  names_prefix : s.classes.names <+: t.classes.names
  entries_prefix : s.relationships.entries <+: t.relationships.entries

theorem Grows.refl (s : Findings) : s.Grows s :=
  ⟨List.prefix_rfl, List.prefix_rfl⟩

theorem Grows.trans (hst : s.Grows t) (htu : t.Grows u) : s.Grows u :=
  ⟨hst.names_prefix.trans htu.names_prefix, hst.entries_prefix.trans htu.entries_prefix⟩

theorem names_prefix_insertAll (c : ClassSet) (ns : List ClassName) :
    c.names <+: (c.insertAll ns).names := by
  rw [ClassSet.names_insertAll, foldl_appendNew]
  exact List.prefix_append _ _

theorem entries_prefix_pushAll (l : RelationshipLog) (rs : List Relationship) :
    l.entries <+: (l.pushAll rs).entries := by
  rw [RelationshipLog.entries_pushAll, foldl_appendNew]
  exact List.prefix_append _ _

theorem grows_step (s : Findings) (next : Step) : s.Grows (s.step next) := by
  cases next with
  | pass p =>
      cases p with
      | declarations buffer =>
          rw [step, afterPass, addDeclarations_eq_addSites]
          exact ⟨names_prefix_insertAll _ _, entries_prefix_pushAll _ _⟩
      | usages => exact ⟨List.prefix_rfl, entries_prefix_pushAll _ _⟩
  | addClass name => exact ⟨ClassSet.prefix_insert _ _, List.prefix_rfl⟩
  | putDefinition new => exact ⟨List.prefix_rfl, List.prefix_rfl⟩
  | addRelationship r => exact ⟨List.prefix_rfl, RelationshipLog.prefix_push _ _⟩

/-- Steps only append to classes and relationships. -/
theorem grows_run (s : Findings) (steps : List Step) : s.Grows (s.run steps) := by
  induction steps generalizing s with
  | nil => exact Grows.refl s
  | cons next steps ih => exact (grows_step s next).trans (ih _)

/-- Taking in declarations leaves what is filed in its place. -/
theorem records_prefix_addDeclarations (s : Findings) (buffer : List Char) :
    s.records <+: (s.addDeclarations buffer).records := by
  rw [addDeclarations_eq_addSites, addSites, fileAll, foldl_appendNew]
  exact List.prefix_append _ _

/-- What adding usage edges appends are usage edges from definitions to other classes. -/
theorem entries_addUsages (s : Findings) : ∃ new,
    s.addUsages.relationships.entries = s.relationships.entries ++ new ∧
      ∀ r ∈ new, ∃ d ∈ s.definitions, ∃ target ∈ s.classes.names,
        target ≠ d.name ∧ r = .usage d.name target := by
  rw [addUsages, RelationshipLog.entries_pushAll, foldl_appendNew]
  refine ⟨_, rfl, fun r hr => ?_⟩
  have hr := List.mem_of_mem_filter (List.mem_of_mem_filter (mem_of_mem_firstsBy hr))
  obtain ⟨d, hd, target, htarget, hne, -, rfl⟩ := mem_usagesIn.mp hr
  exact ⟨d, hd, target, htarget, hne, rfl⟩

/-! ## References -/

theorem Closed.afterPass (h : s.Closed) (hproper : s.Proper) (p : Pass) :
    (s.afterPass p).Closed := by
  cases p with
  | declarations buffer => exact h.addDeclarations buffer
  | usages => exact h.addUsages hproper

/-- Passes alone keep the references closed. -/
theorem Closed.runPasses (h : s.Closed) (hsound : s.Sound) (passes : List Pass) :
    (s.run (passes.map .pass)).Closed := by
  induction passes generalizing s with
  | nil => exact h
  | cons p passes ih =>
      exact ih (h.afterPass hsound.toProper p) (hsound.step (.pass p))

/-- After any steps, nothing is repeated in the findings, no relationship is a loop, and
each definition is filed under its own name, the only one for it.  Whatever steps follow
append to classes and relationships.  Taking in declarations leaves what is filed in its
place; adding usage edges leaves classes and definitions alone and appends usage edges from
definitions to other classes found.  After passes alone, every class that is referred to is
among the classes. -/
theorem sound_run_empty (steps : List Step) :
    (empty.run steps).Sound ∧
      (∀ more : List Step, (empty.run steps).Grows ((empty.run steps).run more)) ∧
      (∀ buffer : List Char,
        (empty.run steps).records <+: ((empty.run steps).addDeclarations buffer).records) ∧
      ((empty.run steps).addUsages.classes = (empty.run steps).classes ∧
        (empty.run steps).addUsages.records = (empty.run steps).records ∧
        ∃ new, (empty.run steps).addUsages.relationships.entries =
            (empty.run steps).relationships.entries ++ new ∧
          ∀ r ∈ new, ∃ d ∈ (empty.run steps).definitions,
            ∃ target ∈ (empty.run steps).classes.names,
              target ≠ d.name ∧ r = .usage d.name target) ∧
      ∀ passes : List Pass, (empty.run (passes.map .pass)).Closed := by
  refine ⟨sound_empty.run steps, grows_run _, records_prefix_addDeclarations _, ?_, ?_⟩
  · exact ⟨rfl, rfl, entries_addUsages _⟩
  · exact closed_empty.runPasses sound_empty

end Findings

end ClassDiagram
