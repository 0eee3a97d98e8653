import ClassDiagram.Proofs.GraphIntegrity
import ClassDiagram.Proofs.ScanResult
import ClassDiagram.Proofs.UnitBoundary

/-!
# The order of source units

A scan keeps everything in the order of first sight, so the order of the units shows
in its result.  For self-contained units that share no declared class it shows
nowhere else: classes, definitions and edges are those of the units, each of them
found whatever stands before it.

Main results:

- Theorem `flatMap_sites_bufferOfTexts`: what is taken from the sites of a buffer is
  what is taken from the sites of its units.
- Theorems `mem_names_bufferOfTexts`, `mem_inheritancesIn_bufferOfTexts` and
  `mem_definitionsIn_bufferOfTexts`: classes, inheritance edges and definitions of a
  buffer are those of its units.
- Theorem `graphOfTexts_perm`: the diagram of such units does not depend on their
  order.
-/

namespace ClassDiagram

open Text

/-! ## What units contribute -/

section SelfContainedUnits

variable {units : List String} (hunits : ∀ unit ∈ units, SelfContained unit.toList)

include hunits

/-- What is taken from the sites of a buffer is what is taken from the sites of its
units, if the text behind a closed body has no part in it. -/
theorem flatMap_sites_bufferOfTexts {β : Type} {part : Site → List β}
    (hpart : ∀ (x : Site) (more : List Char), BodyCloses x.text →
      part (x.extend more) = part x) :
    (sites (bufferOfTexts units)).flatMap part =
      units.flatMap fun unit => (sites unit.toList).flatMap part := by
  induction units with
  | nil => rw [bufferOfTexts_nil, sites_nil, List.flatMap_nil, List.flatMap_nil]
  | cons unit units ih =>
      have hunit := hunits unit List.mem_cons_self
      have hrest : ∀ u ∈ units, SelfContained u.toList :=
        fun u hu => hunits u (List.mem_cons_of_mem unit hu)
      have hextended : ((sites unit.toList).map
          (Site.extend (unitSeparator :: bufferOfTexts units))).flatMap part =
          (sites unit.toList).flatMap part := by
        rw [List.flatMap_map]
        exact List.flatMap_congr fun x hx => hpart x _ (hunit.closes_of_mem_sites hx)
      rw [bufferOfTexts_cons, hunit.sites_separated, List.flatMap_append, hextended, ih hrest,
        List.flatMap_cons]

theorem mem_names_bufferOfTexts {name : ClassName} :
    name ∈ (scan (bufferOfTexts units)).classes.names ↔
      ∃ unit ∈ units, name ∈ (scan unit.toList).classes.names := by
  simp only [names_scan, List.mem_eraseDups]
  rw [flatMap_sites_bufferOfTexts hunits fun x more _ => rfl, List.mem_flatMap]

theorem mem_inheritancesIn_bufferOfTexts {r : Relationship} :
    r ∈ inheritancesIn (bufferOfTexts units) ↔
      ∃ unit ∈ units, r ∈ inheritancesIn unit.toList := by
  simp only [inheritancesIn, List.mem_eraseDups, List.mem_filter]
  rw [flatMap_sites_bufferOfTexts hunits fun x more _ => rfl, List.mem_flatMap]
  constructor
  · rintro ⟨⟨unit, hunit, hr⟩, hne⟩
    exact ⟨unit, hunit, hr, hne⟩
  · rintro ⟨unit, hunit, hr, hne⟩
    exact ⟨⟨unit, hunit, hr⟩, hne⟩

/-- The definitions that the sites of a buffer give are those that the sites of its
units give, also where a class is defined again. -/
theorem filterMap_definition?_bufferOfTexts :
    (sites (bufferOfTexts units)).filterMap Site.definition? =
      units.flatMap fun unit => (sites unit.toList).filterMap Site.definition? := by
  have hpart : ∀ (x : Site) (more : List Char), BodyCloses x.text →
      (x.extend more).definition?.toList = x.definition?.toList := by
    intro x more hx
    simp only [Site.definition?, Site.body?, Site.extend, bodyIn?_append_of_closes hx more]
  simp only [List.filterMap_eq_flatMap_toList]
  exact flatMap_sites_bufferOfTexts hunits hpart

end SelfContainedUnits

/-! ## Classes of one unit each -/

/-- No two different units declare the same class.  The same text may be among the
units more than once. -/
def DeclareApart (units : List String) : Prop :=
  ∀ u ∈ units, ∀ v ∈ units, ∀ d ∈ declarations u.toList, ∀ e ∈ declarations v.toList,
    d.name = e.name → u = v

instance (units : List String) : Decidable (DeclareApart units) :=
  inferInstanceAs (Decidable (∀ u ∈ units, ∀ v ∈ units, ∀ d ∈ declarations u.toList,
    ∀ e ∈ declarations v.toList, d.name = e.name → u = v))

/-- A definition is one of a declared class. -/
theorem exists_declaration_of_definition {cs : List Char} {d : Definition}
    (h : d ∈ (sites cs).filterMap Site.definition?) :
    ∃ e ∈ declarations cs, e.name = d.name := by
  obtain ⟨x, hx, hd⟩ := List.mem_filterMap.mp h
  obtain ⟨body, -, rfl⟩ := Option.map_eq_some_iff.mp hd
  rw [declarations_eq_map_sites]
  exact ⟨_, List.mem_map_of_mem hx, rfl⟩

/-- If no class is declared by two units, then a first definition in the buffer is the
first one in its unit. -/
theorem mem_definitionsIn_bufferOfTexts {units : List String}
    (hunits : ∀ unit ∈ units, SelfContained unit.toList) (hapart : DeclareApart units)
    {d : Definition} :
    d ∈ definitionsIn (bufferOfTexts units) ↔ ∃ unit ∈ units, d ∈ definitionsIn unit.toList := by
  rw [definitionsIn, filterMap_definition?_bufferOfTexts hunits]
  apply mem_firstsBy_flatMap
  intro u hu v hv a ha b hb hname
  obtain ⟨d, hd, hda⟩ := exists_declaration_of_definition ha
  obtain ⟨e, he, heb⟩ := exists_declaration_of_definition hb
  exact hapart u hu v hv d hd e he (by rw [hda, heb, hname])

/-! ## Permuted units -/

section Permuted

variable {units units' : List String} (hperm : units.Perm units')
  (hunits : ∀ unit ∈ units, SelfContained unit.toList)

include hperm hunits

theorem names_scan_perm :
    (scan (bufferOfTexts units)).classes.names.Perm
      (scan (bufferOfTexts units')).classes.names := by
  have hunits' : ∀ unit ∈ units', SelfContained unit.toList :=
    fun unit hunit => hunits unit (hperm.mem_iff.mpr hunit)
  rw [List.perm_ext_iff_of_nodup (proper_scan _).nodup_names (proper_scan _).nodup_names]
  intro name
  simp only [mem_names_bufferOfTexts hunits, mem_names_bufferOfTexts hunits', hperm.mem_iff]

/-- Usage edges lead from the definitions of single units to the classes of all units. -/
theorem entries_scan_perm (hapart : DeclareApart units) :
    (scan (bufferOfTexts units)).relationships.entries.Perm
      (scan (bufferOfTexts units')).relationships.entries := by
  have hunits' : ∀ unit ∈ units', SelfContained unit.toList :=
    fun unit hunit => hunits unit (hperm.mem_iff.mpr hunit)
  have hapart' : DeclareApart units' :=
    fun u hu v hv => hapart u (hperm.mem_iff.mpr hu) v (hperm.mem_iff.mpr hv)
  rw [List.perm_ext_iff_of_nodup (proper_scan _).nodup_entries (proper_scan _).nodup_entries]
  intro r
  have hinheritances : r ∈ inheritancesIn (bufferOfTexts units) ↔
      r ∈ inheritancesIn (bufferOfTexts units') := by
    simp only [mem_inheritancesIn_bufferOfTexts hunits,
      mem_inheritancesIn_bufferOfTexts hunits', hperm.mem_iff]
  have hdefinitions : ∀ d, d ∈ definitionsIn (bufferOfTexts units) ↔
      d ∈ definitionsIn (bufferOfTexts units') := by
    intro d
    simp only [mem_definitionsIn_bufferOfTexts hunits hapart,
      mem_definitionsIn_bufferOfTexts hunits' hapart', hperm.mem_iff]
  have hclasses := fun name => (names_scan_perm hperm hunits).mem_iff (a := name)
  rw [entries_scan, entries_scan, List.mem_append, List.mem_append, hinheritances]
  simp only [mem_usagesIn, definitions_scan, hdefinitions, hclasses]

end Permuted

/-- The diagram of self-contained units that share no declared class has the same boxes
and the same edges in whatever order the units come. -/
theorem graphOfTexts_perm {units units' : List String} (hperm : units.Perm units')
    (hunits : ∀ unit ∈ units, SelfContained unit.toList) (hapart : DeclareApart units) :
    (graphOfTexts units).children.Perm (graphOfTexts units').children ∧
      (graphOfTexts units).edges.Perm (graphOfTexts units').edges :=
  ⟨(names_scan_perm hperm hunits).map _, (entries_scan_perm hperm hunits hapart).map _⟩

/-- Units that name each other's classes, one of which defines a class twice. -/
def farmUnits : List String :=
  ["class Cow : Animal { Dog friend; }\nclass Cow { Hen other; } ", "\t",
    "class Dog : Animal { Dog Call() { return new Dog(); } class Bone { Cow.Run(); } }"]

/-- The diagram of the units stays the same if the last one comes first, although its
boxes and edges come in another order. -/
theorem graphOfTexts_farmUnits :
    farmUnits.Perm farmUnits.reverse ∧
      (∀ unit ∈ farmUnits, SelfContained unit.toList) ∧ DeclareApart farmUnits ∧
      (graphOfTexts farmUnits).children ≠ (graphOfTexts farmUnits.reverse).children ∧
      (graphOfTexts farmUnits).children.Perm (graphOfTexts farmUnits.reverse).children ∧
      (graphOfTexts farmUnits).edges.Perm (graphOfTexts farmUnits.reverse).edges := by
  have hperm : farmUnits.Perm farmUnits.reverse := (List.reverse_perm farmUnits).symm
  have hunits : ∀ unit ∈ farmUnits, SelfContained unit.toList := by decide +kernel
  have hapart : DeclareApart farmUnits := by decide +kernel
  have horder : (graphOfTexts farmUnits).children ≠ (graphOfTexts farmUnits.reverse).children := by
    decide +kernel
  exact ⟨hperm, hunits, hapart, horder, graphOfTexts_perm hperm hunits hapart⟩

end ClassDiagram
