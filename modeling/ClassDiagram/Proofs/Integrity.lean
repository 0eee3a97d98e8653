import ClassDiagram.Scan.Findings
import Mathlib.Data.List.Nodup

/-!
# Integrity of findings

Findings consist of three lists that refer to each other.  Two invariants say
what keeps them together.  The first concerns each container for itself: nothing
is repeated, no class is related to itself, and every definition is filed under
the class it defines.  The second concerns the references: every class that has
a definition or takes part in a relationship is among the classes.

Both hold before anything is scanned and are kept by each addition, so they hold
of everything that a scan finds.

Main results:

- Theorems `Findings.Proper.addDeclarations` and `Findings.Proper.addUsages`: both
  passes keep the containers proper.
- Theorems `Findings.Closed.addDeclarations` and `Findings.Closed.addUsages`: both
  passes keep the references closed.
- Theorems `proper_scan` and `closed_scan`: the invariants of a scan.
-/

namespace ClassDiagram

namespace Findings

/-! ## The two invariants -/

/-- Each container is as it should be: nothing repeated, no loops, and every
definition under its own class. -/
structure Proper (s : Findings) : Prop where
  nodup_names : s.classes.names.Nodup
  nodup_entries : s.relationships.entries.Nodup
  source_ne_target : ∀ r ∈ s.relationships.entries, r.source ≠ r.target
  name_eq_key : ∀ p ∈ s.records, p.2.name = p.1

/-- Every class that is referred to is among the classes found. -/
structure Closed (s : Findings) : Prop where
  key_mem : ∀ p ∈ s.records, p.1 ∈ s.classes.names
  source_mem : ∀ r ∈ s.relationships.entries, r.source ∈ s.classes.names
  target_mem : ∀ r ∈ s.relationships.entries, r.target ∈ s.classes.names

theorem proper_empty : empty.Proper := by
  constructor <;> simp [empty]

theorem closed_empty : empty.Closed := by
  constructor <;> simp [empty]

/-! ## Single additions -/

variable {s : Findings}

theorem Proper.addClass (h : s.Proper) (name : ClassName) : (s.addClass name).Proper where
  nodup_names := ClassSet.nodup_insert name h.nodup_names
  nodup_entries := h.nodup_entries
  source_ne_target := h.source_ne_target
  name_eq_key := h.name_eq_key

theorem Closed.addClass (h : s.Closed) (name : ClassName) : (s.addClass name).Closed := by
  have hsub : ∀ n ∈ s.classes.names, n ∈ (s.addClass name).classes.names := by
    intro n hn
    exact (ClassSet.mem_names_insert s.classes name n).mpr (Or.inl hn)
  constructor
  · exact fun p hp => hsub _ (h.key_mem p hp)
  · exact fun r hr => hsub _ (h.source_mem r hr)
  · exact fun r hr => hsub _ (h.target_mem r hr)

theorem mem_names_addClass (s : Findings) (name : ClassName) :
    name ∈ (s.addClass name).classes.names :=
  (ClassSet.mem_names_insert s.classes name name).mpr (Or.inr rfl)

/-- A relationship is in the log after a push if it was there, or if it is the one
pushed and no loop. -/
theorem mem_entries_addRelationship {r q : Relationship}
    (h : q ∈ (s.addRelationship r).relationships.entries) :
    q ∈ s.relationships.entries ∨ q = r ∧ r.source ≠ r.target := by
  rw [addRelationship, RelationshipLog.entries_push] at h
  split at h
  next hnew =>
    rcases List.mem_append.mp h with h | h
    · exact Or.inl h
    · exact Or.inr ⟨List.mem_singleton.mp h, hnew.1⟩
  next => exact Or.inl h

theorem Proper.addRelationship (h : s.Proper) (r : Relationship) :
    (s.addRelationship r).Proper where
  nodup_names := h.nodup_names
  nodup_entries := RelationshipLog.nodup_push r h.nodup_entries
  source_ne_target := by
    intro q hq
    rcases mem_entries_addRelationship hq with hq | ⟨rfl, hne⟩
    · exact h.source_ne_target q hq
    · exact hne
  name_eq_key := h.name_eq_key

theorem Closed.addRelationship (h : s.Closed) {r : Relationship}
    (hsource : r.source ∈ s.classes.names) (htarget : r.target ∈ s.classes.names) :
    (s.addRelationship r).Closed where
  key_mem := h.key_mem
  source_mem := by
    intro q hq
    rcases mem_entries_addRelationship hq with hq | ⟨rfl, -⟩
    · exact h.source_mem q hq
    · exact hsource
  target_mem := by
    intro q hq
    rcases mem_entries_addRelationship hq with hq | ⟨rfl, -⟩
    · exact h.target_mem q hq
    · exact htarget

theorem Proper.settle (h : s.Proper) (o : Outcome) : (s.settle o).Proper := by
  cases o with
  | defined new =>
      refine ⟨h.nodup_names, h.nodup_entries, h.source_ne_target, ?_⟩
      intro p hp
      rcases List.mem_append.mp hp with hp | hp
      · exact h.name_eq_key p hp
      · rw [List.mem_singleton.mp hp]
  | repeated name => exact h
  | bodiless name => exact h

/-- The outcome of a declaration may be taken in once its class is known. -/
theorem Closed.settle (h : s.Closed) {o : Outcome}
    (hname : ∀ new, o = .defined new → new.name ∈ s.classes.names) : (s.settle o).Closed := by
  cases o with
  | defined new =>
      refine ⟨?_, h.source_mem, h.target_mem⟩
      intro p hp
      rcases List.mem_append.mp hp with hp | hp
      · exact h.key_mem p hp
      · rw [List.mem_singleton.mp hp]
        exact hname new rfl
  | repeated name => exact h
  | bodiless name => exact h

/-! ## Declarations -/

theorem Proper.addSupertype (h : s.Proper) (name : ClassName) (supertype : Option ClassName) :
    (s.addSupertype name supertype).Proper := by
  cases supertype with
  | none => exact h
  | some supertype => exact (h.addClass supertype).addRelationship _

theorem Closed.addSupertype (h : s.Closed) {name : ClassName} (hname : name ∈ s.classes.names)
    (supertype : Option ClassName) :
    (s.addSupertype name supertype).Closed ∧
      name ∈ (s.addSupertype name supertype).classes.names := by
  cases supertype with
  | none => exact ⟨h, hname⟩
  | some supertype =>
      have hname' : name ∈ (s.addClass supertype).classes.names :=
        (ClassSet.mem_names_insert s.classes supertype name).mpr (Or.inl hname)
      exact ⟨(h.addClass supertype).addRelationship (mem_names_addClass s supertype) hname', hname'⟩

/-- A definition that a declaration makes is one of the declared class. -/
theorem name_of_outcome_eq_defined {buffer : List Char} {d : Declaration} {new : Definition}
    (h : s.outcome buffer d = .defined new) : new.name = d.name := by
  unfold outcome at h
  split at h
  · cases h
  · split at h
    · cases h
    · cases h
      rfl

theorem Proper.declare (h : s.Proper) (buffer : List Char) (d : Declaration) :
    (s.declare buffer d).Proper :=
  ((h.addClass d.name).addSupertype d.name d.supertype).settle _

theorem Closed.declare (h : s.Closed) (buffer : List Char) (d : Declaration) :
    (s.declare buffer d).Closed := by
  obtain ⟨hclosed, hname⟩ :=
    (h.addClass d.name).addSupertype (mem_names_addClass s d.name) d.supertype
  apply hclosed.settle
  intro new hnew
  rw [name_of_outcome_eq_defined hnew]
  exact hname

theorem Proper.declareAll (h : s.Proper) (buffer : List Char) (ds : List Declaration) :
    (s.declareAll buffer ds).Proper := by
  induction ds generalizing s with
  | nil => exact h
  | cons d ds ih => exact ih (h.declare buffer d)

theorem Closed.declareAll (h : s.Closed) (buffer : List Char) (ds : List Declaration) :
    (s.declareAll buffer ds).Closed := by
  induction ds generalizing s with
  | nil => exact h
  | cons d ds ih => exact ih (h.declare buffer d)

theorem Proper.addDeclarations (h : s.Proper) (buffer : List Char) :
    (s.addDeclarations buffer).Proper :=
  h.declareAll buffer _

theorem Closed.addDeclarations (h : s.Closed) (buffer : List Char) :
    (s.addDeclarations buffer).Closed :=
  h.declareAll buffer _

/-! ## Usages -/

/-- Usage edges are pushed one after the other. -/
theorem addUsages_eq_foldl (s : Findings) :
    s.addUsages = (usagesIn s.definitions s.classes).foldl addRelationship s := by
  have hrun : ∀ (rs : List Relationship) (t : Findings),
      { t with relationships := t.relationships.pushAll rs } = rs.foldl addRelationship t := by
    intro rs
    induction rs with
    | nil => intro t; rfl
    | cons r rs ih => intro t; exact ih (t.addRelationship r)
  exact hrun _ s

theorem Proper.addRelationships (h : s.Proper) (rs : List Relationship) :
    (rs.foldl Findings.addRelationship s).Proper := by
  induction rs generalizing s with
  | nil => exact h
  | cons r rs ih => exact ih (h.addRelationship r)

theorem Closed.addRelationships (h : s.Closed) {rs : List Relationship}
    (hrs : ∀ r ∈ rs, r.source ∈ s.classes.names ∧ r.target ∈ s.classes.names) :
    (rs.foldl Findings.addRelationship s).Closed := by
  induction rs generalizing s with
  | nil => exact h
  | cons r rs ih =>
      obtain ⟨hsource, htarget⟩ := hrs r List.mem_cons_self
      exact ih (h.addRelationship hsource htarget)
        fun q hq => hrs q (List.mem_cons_of_mem r hq)

theorem Proper.addUsages (h : s.Proper) : s.addUsages.Proper := by
  rw [addUsages_eq_foldl]
  exact h.addRelationships _

/-- Usage edges lead from filed definitions to classes, so they stay among the
classes. -/
theorem Closed.addUsages (h : s.Closed) (hproper : s.Proper) : s.addUsages.Closed := by
  rw [addUsages_eq_foldl]
  apply h.addRelationships
  intro r hr
  obtain ⟨d, hd, hr⟩ := List.mem_flatMap.mp hr
  obtain ⟨target, htarget, rfl⟩ := List.mem_map.mp hr
  obtain ⟨p, hp, rfl⟩ := List.mem_map.mp hd
  refine ⟨?_, List.mem_of_mem_filter htarget⟩
  change p.2.name ∈ s.classes.names
  rw [hproper.name_eq_key p hp]
  exact h.key_mem p hp

end Findings

/-! ## Scans -/

/-- What a scan finds is proper. -/
theorem proper_scan (buffer : List Char) : (scan buffer).Proper :=
  (Findings.proper_empty.addDeclarations buffer).addUsages

/-- What a scan finds is closed. -/
theorem closed_scan (buffer : List Char) : (scan buffer).Closed :=
  (Findings.closed_empty.addDeclarations buffer).addUsages
    (Findings.proper_empty.addDeclarations buffer)

end ClassDiagram
