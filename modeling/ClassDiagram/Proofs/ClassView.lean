import ClassDiagram.Proofs.ScanResult

/-!
# What a scan says about one class

The body that is recorded for a class and the usage edges that lead from it can be
read off a scan without looking at the other classes: the body is the one behind the
first declaration of the class, and the edges are those that this body gives.

Main results:

- Theorem `body?_scan`: the recorded body is that of the first site of the class.
- Theorem `map_name_definitions_scan`: the classes with a recorded body are those that
  sites define, in the order of first sight.
- Theorem `usagesOf_scan`: the usage edges from a class are those of its recorded
  body.
-/

namespace ClassDiagram

open Text

namespace Findings

/-! ## Views -/

/-- The body that is recorded for a class, if one is. -/
def body? (s : Findings) (name : ClassName) : Option (List Char) :=
  (s.records.find? fun p => p.1 = name).map fun p => p.2.body

/-- The inheritance edges, in order. -/
def inheritances (s : Findings) : List Relationship :=
  s.relationships.entries.filter fun r => r.kind = .inheritance

/-- The usage edges that lead from a class, in order. -/
def usagesOf (s : Findings) (name : ClassName) : List Relationship :=
  s.relationships.entries.filter fun r => r.kind = .usage ∧ r.source = name

end Findings

/-! ## Recorded bodies -/

theorem Site.name_of_definition? {x : Site} {d : Definition} (h : x.definition? = some d) :
    d.name = x.name := by
  obtain ⟨body, -, rfl⟩ := Option.map_eq_some_iff.mp h
  rfl

/-- The definition of a class is the one that its first site gives. -/
theorem find?_definitionsIn (buffer : List Char) (name : ClassName) :
    (definitionsIn buffer).find? (fun d => d.name = name) =
      ((sites buffer).find? fun x => x.name = name).bind Site.definition? := by
  have hnone : (sites buffer).Pairwise fun x y => x.definition? = none → y.definition? = none := by
    simpa only [Site.definition?_eq_none_iff] using pairwise_body_sites buffer
  rw [definitionsIn, find?_firstsBy, find?_filterMap_of_key Site.name_of_definition? hnone]

/-- The recorded body of a class is the one behind its first declaration. -/
theorem body?_scan (buffer : List Char) (name : ClassName) :
    (scan buffer).body? name =
      ((sites buffer).find? fun x => x.name = name).bind Site.body? := by
  rw [Findings.body?, records_scan, List.find?_map, Option.map_map]
  change ((definitionsIn buffer).find? fun d => d.name = name).map Definition.body = _
  rw [find?_definitionsIn, Option.map_bind]
  congr 1
  funext x
  rw [Function.comp, Site.definition?, Option.map_map]
  exact Option.map_id'

/-! ## Classes with recorded bodies -/

/-- The name of a class at a site where it is defined. -/
def Site.definedName (x : Site) : List ClassName :=
  (x.definition?.map Definition.name).toList

theorem Site.definedName_of_brace {x : Site} (hx : '{' ∈ x.text) : x.definedName = [x.name] := by
  have hbody : x.body? ≠ none := by
    rw [Site.body?, Ne, bodyIn?_eq_none_iff]
    exact not_not.mpr hx
  obtain ⟨body, hbody⟩ := Option.ne_none_iff_exists'.mp hbody
  rw [definedName, definition?, hbody]
  rfl

/-- The classes with a recorded body are those that sites define. -/
theorem map_name_definitions_scan (buffer : List Char) :
    (scan buffer).definitions.map Definition.name =
      ((sites buffer).flatMap Site.definedName).eraseDups := by
  have hnames : ((sites buffer).filterMap Site.definition?).map Definition.name =
      (sites buffer).flatMap Site.definedName := by
    rw [List.map_filterMap, List.filterMap_eq_flatMap_toList]
    rfl
  rw [definitions_scan, definitionsIn, ← hnames, ← firstsBy_id, firstsBy_map]
  rfl

/-! ## Edges -/

theorem inheritances_scan (buffer : List Char) :
    (scan buffer).inheritances = inheritancesIn buffer := by
  have hinheritances : ((inheritancesIn buffer).filter fun r => r.kind = .inheritance) =
      inheritancesIn buffer := by
    rw [List.filter_eq_self]
    exact fun r hr => decide_eq_true (kind_of_mem_inheritancesIn hr)
  have husages : ((usagesIn (scan buffer).definitions (scan buffer).classes).filter
      fun r => r.kind = .inheritance) = [] := by
    rw [List.filter_eq_nil_iff]
    intro r hr
    obtain ⟨d, -, target, -, -, -, rfl⟩ := mem_usagesIn.mp hr
    simp [Relationship.usage]
  rw [Findings.inheritances, entries_scan, List.filter_append, hinheritances, husages,
    List.append_nil]

/-- The usage edges from a class are those that its definitions give. -/
theorem filter_usagesIn (ds : List Definition) (classes : ClassSet) (name : ClassName) :
    (usagesIn ds classes).filter (fun r => r.kind = .usage ∧ r.source = name) =
      usagesIn (ds.filter fun d => d.name = name) classes := by
  induction ds with
  | nil => rfl
  | cons d ds ih =>
      have hsource : ∀ r ∈ d.usages classes, r.kind = .usage ∧ r.source = d.name := by
        intro r hr
        obtain ⟨target, -, rfl⟩ := List.mem_map.mp hr
        exact ⟨rfl, rfl⟩
      rw [usagesIn, List.flatMap_cons, List.filter_append, ← usagesIn, ih]
      by_cases hd : d.name = name
      · have hkept : ((d.usages classes).filter fun r => r.kind = .usage ∧ r.source = name) =
            d.usages classes := by
          rw [List.filter_eq_self]
          intro r hr
          simpa [hd] using hsource r hr
        rw [hkept, List.filter_cons_of_pos (by simpa using hd), usagesIn, usagesIn,
          List.flatMap_cons]
      · have hdropped : ((d.usages classes).filter fun r => r.kind = .usage ∧ r.source = name) =
            [] := by
          rw [List.filter_eq_nil_iff]
          intro r hr
          simp [hsource r hr, hd]
        rw [hdropped, List.filter_cons_of_neg (by simpa using hd), List.nil_append]

/-- The usage edges from a class are those of its recorded body. -/
theorem usagesOf_scan (buffer : List Char) (name : ClassName) :
    (scan buffer).usagesOf name =
      ((scan buffer).body? name).toList.flatMap fun body =>
        Definition.usages ⟨name, body⟩ (scan buffer).classes := by
  have hinheritances : ((inheritancesIn buffer).filter
      fun r => r.kind = .usage ∧ r.source = name) = [] := by
    rw [List.filter_eq_nil_iff]
    intro r hr
    simp [kind_of_mem_inheritancesIn hr]
  rw [Findings.usagesOf, entries_scan, List.filter_append, hinheritances, List.nil_append,
    filter_usagesIn, definitions_scan, filter_key_eq_toList_find? (nodup_definitionsIn buffer),
    find?_definitionsIn, body?_scan]
  cases hfind : (sites buffer).find? fun x => x.name = name with
  | none => rfl
  | some x =>
      have hname : x.name = name := by simpa using List.find?_some hfind
      rw [Option.bind_some, Option.bind_some, Site.definition?, hname]
      cases x.body? <;> rfl

end ClassDiagram
