import ClassDiagram.Proofs.Intake
import ClassDiagram.Proofs.SiteExtension
import ClassDiagram.Source.Buffer

/-!
# Boundaries between source units

The separator between units is white space like any other, so a declaration or a
body may well run from one unit into the next.  It cannot leave a unit that ends at
a closing brace and in which all bodies close.  Taking in a buffer of such units is
taking in the units one after the other.

Main results:

- Theorem `addDeclarations_separated`: behind a self-contained unit the findings are
  as if the rest were a text of its own.
- Theorem `addDeclarations_bufferOfTexts`: the declarations of self-contained units can
  be taken in unit by unit.
-/

namespace ClassDiagram

open Text

/-! ## Self-contained units -/

/-- The first body behind a declaration of the text ends at a closing brace of the
text. -/
def Declaration.ClosesIn (d : Declaration) (cs : List Char) : Prop :=
  ∃ tail ∈ dropBytes? d.start cs, BodyCloses tail

instance (d : Declaration) (cs : List Char) : Decidable (d.ClosesIn cs) :=
  inferInstanceAs (Decidable (∃ tail ∈ dropBytes? d.start cs, BodyCloses tail))

/-- A unit that is all white space or ends, up to white space, at a closing brace, and
in which the bodies of all declarations close. -/
structure SelfContained (unit : List Char) : Prop where
  /-- The last character other than white space, if there is one, is a closing brace. -/
  ends : unit.all isBlank = true ∨ unit.findRev? (fun c => !isBlank c) = some '}'
  /-- All declarations have bodies that close. -/
  closes : ∀ d ∈ declarations unit, d.ClosesIn unit

instance (unit : List Char) : Decidable (SelfContained unit) :=
  decidable_of_iff
    ((unit.all isBlank = true ∨ unit.findRev? (fun c => !isBlank c) = some '}') ∧
      ∀ d ∈ declarations unit, d.ClosesIn unit)
    ⟨fun h => ⟨h.1, h.2⟩, fun h => ⟨h.ends, h.closes⟩⟩

namespace SelfContained

variable {unit : List Char}

theorem closes_of_mem_sites (h : SelfContained unit) {x : Site} (hx : x ∈ sites unit) :
    BodyCloses x.text := by
  have hd : x.declarationIn unit ∈ declarations unit := by
    rw [declarations_eq_map_sites]
    exact List.mem_map_of_mem hx
  obtain ⟨lead, hlead⟩ := suffix_of_mem_sites hx
  obtain ⟨tail, htail, hcloses⟩ := h.closes _ hd
  rw [← hlead, Site.start_declarationIn, dropBytes?_byteLength_append] at htail
  cases htail
  exact hcloses

/-- A closing brace with white space behind it. -/
theorem exists_brace (h : unit.findRev? (fun c => !isBlank c) = some '}') :
    ∃ lead blanks, unit = lead ++ '}' :: blanks ∧ ∀ c ∈ blanks, isBlank c = true := by
  rw [List.findRev?_eq_find?_reverse, List.find?_eq_some_iff_append] at h
  obtain ⟨-, blanks, lead, hreverse, hblanks⟩ := h
  refine ⟨lead.reverse, blanks.reverse, ?_, ?_⟩
  · rw [← List.reverse_reverse unit, hreverse]
    simp
  · intro c hc
    simpa using hblanks c (List.mem_reverse.mp hc)

/-- Behind a self-contained unit the search for declarations starts afresh. -/
theorem sites_separated (h : SelfContained unit) (rest : List Char) :
    sites (unit ++ unitSeparator :: rest) =
      (sites unit).map (Site.extend (unitSeparator :: rest)) ++ sites rest := by
  have hseparator : ∀ c ∈ [unitSeparator], isBlank c = true := by
    intro c hc
    rw [List.mem_singleton.mp hc]
    decide
  rcases h.ends with hall | hbrace
  · have hblank := List.all_eq_true.mp hall
    have hsites : sites unit = [] := sites_eq_nil_of_not_mem (not_mem_of_blank hblank)
    rw [hsites, sites_append_of_blank hblank, ← List.singleton_append,
      sites_append_of_blank hseparator]
    rfl
  · obtain ⟨lead, blanks, rfl, hblanks⟩ := exists_brace hbrace
    have hunit := sites_append_of_brace lead blanks
    rw [sites_eq_nil_of_not_mem (not_mem_of_blank hblanks), List.append_nil] at hunit
    have hrest : sites (blanks ++ unitSeparator :: rest) = sites rest := by
      rw [sites_append_of_blank hblanks, ← List.singleton_append,
        sites_append_of_blank hseparator]
    have hextend : Site.extend (unitSeparator :: rest) ∘ Site.extend blanks =
        Site.extend (blanks ++ unitSeparator :: rest) := by
      funext x
      simp [Site.extend]
    rw [List.append_assoc, List.cons_append, sites_append_of_brace lead, hrest, hunit,
      List.map_map, hextend]

end SelfContained

/-! ## Taking in unit by unit -/

/-- A site whose body closes says in every longer text what it says alone. -/
theorem Findings.addSites_map_extend {xs : List Site} (h : ∀ x ∈ xs, BodyCloses x.text)
    (s : Findings) (more : List Char) : s.addSites (xs.map (Site.extend more)) = s.addSites xs := by
  have hdefinitions : (xs.map (Site.extend more)).filterMap Site.definition? =
      xs.filterMap Site.definition? := by
    rw [List.filterMap_map]
    apply List.filterMap_congr
    intro x hx
    have hbody : bodyIn? (x.text ++ more) = bodyIn? x.text :=
      bodyIn?_append_of_closes (h x hx) more
    simp only [Function.comp, Site.definition?, Site.body?, Site.extend, hbody]
  simp only [addSites, hdefinitions, List.flatMap_map]
  rfl

/-- Behind a self-contained unit the findings are as if the rest were a text of its
own. -/
theorem addDeclarations_separated {unit : List Char} (h : SelfContained unit) (s : Findings)
    (rest : List Char) :
    s.addDeclarations (unit ++ unitSeparator :: rest) =
      (s.addDeclarations unit).addDeclarations rest := by
  simp only [Findings.addDeclarations_eq_addSites]
  rw [h.sites_separated, Findings.addSites_append,
    Findings.addSites_map_extend fun x hx => h.closes_of_mem_sites hx]

/-- The declarations of self-contained units can be taken in unit by unit. -/
theorem addDeclarations_bufferOfTexts {units : List String}
    (h : ∀ unit ∈ units, SelfContained unit.toList) (s : Findings) :
    s.addDeclarations (bufferOfTexts units) =
      units.foldl (fun s unit => s.addDeclarations unit.toList) s := by
  induction units generalizing s with
  | nil =>
      rw [bufferOfTexts_nil, Findings.addDeclarations_eq_addSites, sites_nil,
        Findings.addSites_nil, List.foldl_nil]
  | cons unit units ih =>
      have hunit := h unit List.mem_cons_self
      have hunits : ∀ u ∈ units, SelfContained u.toList :=
        fun u hu => h u (List.mem_cons_of_mem unit hu)
      rw [bufferOfTexts_cons, addDeclarations_separated hunit, ih hunits, List.foldl_cons]

/-- Units that declare a class again, extend a class of another unit and hold nothing
at all. -/
def petUnits : List String :=
  ["class Cat : Animal { Cat mother; }", " ", "class Cat { }\nclass Dog : Cat { } "]

/-- The units are taken in one by one, also behind findings that define one of their
classes. -/
theorem addDeclarations_petUnits :
    (∀ unit ∈ petUnits, SelfContained unit.toList) ∧
      (Findings.empty.addDeclarations "class Dog { Cat foe; }".toList).addDeclarations
          (bufferOfTexts petUnits) =
        petUnits.foldl (fun s unit => s.addDeclarations unit.toList)
          (Findings.empty.addDeclarations "class Dog { Cat foe; }".toList) := by
  have hunits : ∀ unit ∈ petUnits, SelfContained unit.toList := by decide +kernel
  exact ⟨hunits, addDeclarations_bufferOfTexts hunits _⟩

end ClassDiagram
