import ClassDiagram.Proofs.FirstOccurrence
import ClassDiagram.Proofs.Site
import ClassDiagram.Scan.Findings

/-!
# Taking in declarations

Findings take in declarations one after the other, and each declaration touches
all three containers.  The containers do not depend on each other, so taking in
a text amounts to three independent additions: of the classes that its sites
name, of the definitions they give, and of their inheritance edges.

Main results:

- Theorem `Findings.addDeclarations_eq_addSites`: the three containers of the
  findings each grow by what the sites say, in order.
-/

namespace ClassDiagram

open Text

/-! ## What a site says -/

namespace Site

/-- The classes that a declaration names: the declared class, then its supertype. -/
def classes (x : Site) : List ClassName :=
  x.name :: x.supertype.toList

/-- The inheritance edge that a declaration gives, if it names a supertype. -/
def inheritance (x : Site) : List Relationship :=
  x.supertype.toList.map fun supertype => .inheritance supertype x.name

/-- The definition that a declaration gives, if a body follows. -/
def definition? (x : Site) : Option Definition :=
  x.body?.map fun body => ⟨x.name, body⟩

/-- A site gives a definition exactly if it has a body. -/
theorem definition?_eq_none_iff {x : Site} : x.definition? = none ↔ x.body? = none :=
  Option.map_eq_none_iff

end Site

namespace Findings

/-- Files definitions under their classes, each unless its class has one. -/
def fileAll (records : List (ClassName × Definition)) (ds : List Definition) :
    List (ClassName × Definition) :=
  (ds.map fun d => (d.name, d)).foldl (appendNew Prod.fst) records

/-- Takes in sites: their classes, their definitions and their inheritance edges. -/
def addSites (s : Findings) (xs : List Site) : Findings where
  classes := s.classes.insertAll (xs.flatMap Site.classes)
  records := fileAll s.records (xs.filterMap Site.definition?)
  relationships := s.relationships.pushAll (xs.flatMap Site.inheritance)

@[simp]
theorem addSites_nil (s : Findings) : s.addSites [] = s :=
  rfl

theorem addSites_append (s : Findings) (xs ys : List Site) :
    s.addSites (xs ++ ys) = (s.addSites xs).addSites ys := by
  simp only [addSites, fileAll, List.flatMap_append, List.filterMap_append, List.map_append,
    List.foldl_append, ClassSet.insertAll_append, RelationshipLog.pushAll_append]

theorem defines_iff {s : Findings} {name : ClassName} :
    s.defines name = true ↔ name ∈ s.records.map Prod.fst := by
  simp [defines]

/-- Adding the classes of a declaration and its edge leaves the definitions alone. -/
theorem addSupertype_addClass (s : Findings) (x : Site) :
    (s.addClass x.name).addSupertype x.name x.supertype =
      { s with
        classes := s.classes.insertAll x.classes
        relationships := s.relationships.pushAll x.inheritance } := by
  unfold Site.classes Site.inheritance
  cases x.supertype <;> rfl

/-- A definition is filed unless its class has one. -/
theorem fileAll_singleton (s : Findings) (new : Definition) :
    fileAll s.records [new] =
      if s.defines new.name then s.records else s.records ++ [(new.name, new)] := by
  by_cases hdef : s.defines new.name = true
  · have hmem := defines_iff.mp hdef
    simp only [fileAll, List.map_cons, List.map_nil, List.foldl_cons, List.foldl_nil, appendNew,
      if_pos hmem, if_pos hdef]
  · have hmem : new.name ∉ s.records.map Prod.fst := fun hmem => hdef (defines_iff.mpr hmem)
    simp only [fileAll, List.map_cons, List.map_nil, List.foldl_cons, List.foldl_nil, appendNew,
      if_neg hmem, if_neg hdef]

/-- The outcome of a declaration files the definition that its site gives. -/
theorem settle_outcome {buffer : List Char} {x : Site} (h : x.text <:+ buffer)
    {s t : Findings} (hrecords : t.records = s.records) :
    t.settle (s.outcome buffer (x.declarationIn buffer)) =
      { t with records := fileAll s.records x.definition?.toList } := by
  rw [outcome, Site.bodyFrom?_start h, Site.definition?]
  cases x.body? with
  | none =>
      change t = { t with records := s.records }
      rw [← hrecords]
  | some body =>
      change t.settle (if s.defines x.name then .repeated x.name else .defined ⟨x.name, body⟩) = _
      rw [Option.map_some, Option.toList_some, fileAll_singleton]
      by_cases hdef : s.defines x.name = true
      · simp only [if_pos hdef, settle, ← hrecords]
      · simp only [if_neg hdef, settle, ← hrecords]

/-- A declaration is taken in as its site. -/
theorem declare_eq_addSites {buffer : List Char} {x : Site} (h : x.text <:+ buffer)
    (s : Findings) : s.declare buffer (x.declarationIn buffer) = s.addSites [x] := by
  have hnamed := addSupertype_addClass s x
  have hrecords : ((s.addClass x.name).addSupertype x.name x.supertype).records = s.records := by
    rw [hnamed]
  have hsite : [x].filterMap Site.definition? = x.definition?.toList := by
    cases hx : x.definition? <;> simp [hx]
  calc
    s.declare buffer (x.declarationIn buffer) =
        ((s.addClass x.name).addSupertype x.name x.supertype).settle
          (s.outcome buffer (x.declarationIn buffer)) := rfl
    _ = s.addSites [x] := by
        rw [settle_outcome h hrecords, hnamed, addSites, hsite, List.flatMap_singleton,
          List.flatMap_singleton]

/-- Declarations are taken in one after the other as their sites. -/
theorem declareAll_eq_addSites {buffer : List Char} {xs : List Site}
    (h : ∀ x ∈ xs, x.text <:+ buffer) (s : Findings) :
    s.declareAll buffer (xs.map fun x => x.declarationIn buffer) = s.addSites xs := by
  induction xs generalizing s with
  | nil => rfl
  | cons x xs ih =>
      have hx := h x List.mem_cons_self
      have hxs : ∀ y ∈ xs, y.text <:+ buffer := fun y hy => h y (List.mem_cons_of_mem x hy)
      rw [List.map_cons, declareAll_cons, declare_eq_addSites hx, ih hxs, ← addSites_append,
        List.singleton_append]

/-- The declarations of a text are taken in as its sites. -/
theorem addDeclarations_eq_addSites (s : Findings) (buffer : List Char) :
    s.addDeclarations buffer = s.addSites (sites buffer) := by
  rw [addDeclarations, declarations_eq_map_sites]
  exact declareAll_eq_addSites (fun x hx => suffix_of_mem_sites hx) s

end Findings

end ClassDiagram
