import ClassDiagram.Proofs.ScanResult
import ClassDiagram.Proofs.SiteExtension
import ClassDiagram.Proofs.UsageGrowth
import ClassDiagram.Source.Buffer

/-!
# Scans of longer texts

Text behind a buffer can do four things to what a scan of the buffer finds: give
its last declaration a supertype, complete a declaration that the buffer breaks
off, give a body to declarations that have none, and lengthen bodies that are
still open.  None of these takes anything away, because a buffer does not end
inside a name.

Main results:

- Theorem `continued_sites`: the sites of a longer text continue those of the text.
- Theorem `scan_grows`: a scan of a longer text finds everything that a scan of the
  text finds, in the same order.
- Theorem `scan_grows_of_unit`: a further source unit never loses anything.
-/

namespace ClassDiagram

open Text

/-! ## Continued sites -/

/-- The later sites start with the earlier ones, each with more text behind it; only
the last of the earlier ones may gain a supertype. -/
inductive Continued (more : List Char) : List Site → List Site → Prop
  | further (ys : List Site) : Continued more [] ys
  | settled (x : Site) {xs ys : List Site} :
      Continued more xs ys → Continued more (x :: xs) (x.extend more :: ys)
  | cut (name : ClassName) (supertype : Option ClassName) (text : List Char) (ys : List Site) :
      Continued more [⟨name, none, text⟩] (⟨name, supertype, text ++ more⟩ :: ys)

namespace Continued

variable {more : List Char} {xs ys : List Site}

theorem append_settled (h : Continued more xs ys) (settled : List Site) :
    Continued more (settled ++ xs) (settled.map (Site.extend more) ++ ys) := by
  induction settled with
  | nil => exact h
  | cons x settled ih => exact .settled x ih

/-- The classes that sites name stay at the front. -/
theorem prefix_classes (h : Continued more xs ys) :
    xs.flatMap Site.classes <+: ys.flatMap Site.classes := by
  induction h with
  | further ys => exact List.nil_prefix
  | settled x _ ih =>
      rw [List.flatMap_cons, List.flatMap_cons]
      exact (List.prefix_append_right_inj x.classes).mpr ih
  | cut name supertype text ys => exact ⟨supertype.toList ++ ys.flatMap Site.classes, rfl⟩

/-- The inheritance edges that sites give stay at the front. -/
theorem prefix_inheritance (h : Continued more xs ys) :
    xs.flatMap Site.inheritance <+: ys.flatMap Site.inheritance := by
  induction h with
  | further ys => exact List.nil_prefix
  | settled x _ ih =>
      rw [List.flatMap_cons, List.flatMap_cons]
      exact (List.prefix_append_right_inj x.inheritance).mpr ih
  | cut name supertype text ys => exact List.nil_prefix

end Continued

/-- The sites of a longer text continue those of the text. -/
theorem continued_sites {cs : List Char} (hend : cs = [] ∨ EndsOutsideName cs)
    (more : List Char) : Continued more (sites cs) (sites (cs ++ more)) := by
  obtain ⟨settled, dangling, -, hcase, hsites, hmore⟩ := exists_settled_sites hend
  rw [hsites, hmore]
  apply Continued.append_settled
  rcases hcase with rfl | hdangling
  · rw [sites_nil]
    exact .further _
  rcases sites_of_dangling hdangling with hnone | ⟨name, hone, hlonger⟩
  · rw [hnone]
    exact .further _
  · obtain ⟨supertype, rest, hrest⟩ := hlonger more
    rw [hone, hrest]
    exact .cut name supertype dangling rest

/-! ## Grown definitions -/

/-- A site with more text behind it gives the definition it gave, grown. -/
theorem Site.exists_grown_definition {x : Site} (hend : EndsOutsideName x.text) {d : Definition}
    (hd : x.definition? = some d) (supertype : Option ClassName) (more : List Char) :
    ∃ e, Site.definition? ⟨x.name, supertype, x.text ++ more⟩ = some e ∧ d.Grows e := by
  obtain ⟨body, hbody, rfl⟩ := Option.map_eq_some_iff.mp hd
  rw [Site.definition?, Site.body?]
  rcases bodyIn?_append hbody more with hstays | ⟨lead, further, htext, hgrows⟩
  · rw [hstays]
    exact ⟨_, rfl, rfl, fun target hused => hused⟩
  · rw [hgrows]
    rw [htext] at hend
    have hbodyEnd : body = [] ∨ EndsOutsideName body :=
      hend.eq_nil_or_of_suffix ((List.suffix_cons '{' body).trans (List.suffix_append lead _))
    exact ⟨_, rfl, rfl, fun target hused => ClassName.isUsedIn_append hused hbodyEnd further⟩

theorem GrownTo.filterMap_cons {x y : Site} {xs ys : List Site}
    (hxy : ∀ d, x.definition? = some d → ∃ e, y.definition? = some e ∧ d.Grows e)
    (hnone : x.definition? = none → xs.filterMap Site.definition? = [])
    (h : GrownTo (xs.filterMap Site.definition?) (ys.filterMap Site.definition?)) :
    GrownTo ((x :: xs).filterMap Site.definition?) ((y :: ys).filterMap Site.definition?) := by
  cases hx : x.definition? with
  | none =>
      rw [List.filterMap_cons_none hx, hnone hx]
      exact .nil _
  | some d =>
      obtain ⟨e, hy, hde⟩ := hxy d hx
      rw [List.filterMap_cons_some hx, List.filterMap_cons_some hy]
      exact .cons hde h

/-- Continued sites give the definitions they gave, grown, and further ones only behind
them: a site without a body has none behind it with one. -/
theorem Continued.definitions_grownTo {more : List Char} {xs ys : List Site}
    (h : Continued more xs ys) (hend : ∀ x ∈ xs, EndsOutsideName x.text)
    (hbody : xs.Pairwise fun x y => x.body? = none → y.body? = none) :
    GrownTo (xs.filterMap Site.definition?) (ys.filterMap Site.definition?) := by
  induction h with
  | further ys => exact .nil _
  | @settled x xs ys _ ih =>
      obtain ⟨hhead, hrest⟩ := List.pairwise_cons.mp hbody
      have hrestEnd : ∀ y ∈ xs, EndsOutsideName y.text :=
        fun y hy => hend y (List.mem_cons_of_mem x hy)
      apply GrownTo.filterMap_cons _ _ (ih hrestEnd hrest)
      · intro d hd
        exact Site.exists_grown_definition (hend x List.mem_cons_self) hd x.supertype more
      · intro hnone
        rw [List.filterMap_eq_nil_iff]
        intro y hy
        rw [Site.definition?_eq_none_iff] at hnone ⊢
        exact hhead y hy hnone
  | cut name supertype text ys =>
      have hnil : GrownTo (([] : List Site).filterMap Site.definition?)
          (ys.filterMap Site.definition?) := .nil _
      apply GrownTo.filterMap_cons _ (fun _ => rfl) hnil
      intro d hd
      exact Site.exists_grown_definition (hend _ List.mem_cons_self) hd supertype more

/-- The first definitions of all classes grow if all definitions do. -/
theorem GrownTo.firstsBy_name {ds es : List Definition} (h : GrownTo ds es) :
    GrownTo (firstsBy Definition.name ds) (firstsBy Definition.name es) := by
  obtain ⟨grown, ⟨further, rfl⟩, hgrown⟩ := h
  exact ⟨firstsBy Definition.name grown, firstsBy_prefix_append _ _ _,
    forall₂_firstsBy (fun hde => hde.1) hgrown⟩

/-! ## Scans -/

section Scans

variable {cs : List Char} (hend : cs = [] ∨ EndsOutsideName cs) (more : List Char)

include hend

theorem prefix_names_scan :
    (scan cs).classes.names <+: (scan (cs ++ more)).classes.names := by
  obtain ⟨further, hfurther⟩ := (continued_sites hend more).prefix_classes
  rw [names_scan, names_scan, ← hfurther, ← firstsBy_id, ← firstsBy_id]
  exact firstsBy_prefix_append id _ _

theorem prefix_inheritancesIn : inheritancesIn cs <+: inheritancesIn (cs ++ more) := by
  obtain ⟨further, hfurther⟩ := (continued_sites hend more).prefix_inheritance
  rw [inheritancesIn, inheritancesIn, ← hfurther, List.filter_append, ← firstsBy_id,
    ← firstsBy_id]
  exact firstsBy_prefix_append id _ _

theorem definitions_scan_grownTo :
    GrownTo (scan cs).definitions (scan (cs ++ more)).definitions := by
  rw [definitions_scan, definitions_scan]
  apply GrownTo.firstsBy_name
  apply (continued_sites hend more).definitions_grownTo _ (pairwise_body_sites cs)
  intro x hx
  have hne := text_ne_nil_of_mem_sites hx
  have hcs : EndsOutsideName cs := by
    apply hend.resolve_left
    rintro rfl
    simp at hx
  exact hcs.of_suffix hne (suffix_of_mem_sites hx)

/-- A scan of a longer text finds everything that a scan of the text finds, in the
same order. -/
theorem scan_grows :
    (scan cs).classes.names <+: (scan (cs ++ more)).classes.names ∧
      (scan cs).definitions.map Definition.name <+:
        (scan (cs ++ more)).definitions.map Definition.name ∧
      (scan cs).relationships.entries.Sublist (scan (cs ++ more)).relationships.entries := by
  have hclasses := prefix_names_scan hend more
  have hdefinitions := definitions_scan_grownTo hend more
  refine ⟨hclasses, hdefinitions.prefix_names, ?_⟩
  rw [entries_scan, entries_scan]
  exact (prefix_inheritancesIn hend more).sublist.append (usagesIn_sublist hdefinitions hclasses)

end Scans

/-! ## Source units -/

/-- A buffer does not end inside a name, whatever its units hold. -/
theorem endsOutsideName_bufferOfTexts (texts : List String) :
    bufferOfTexts texts = [] ∨ EndsOutsideName (bufferOfTexts texts) := by
  rcases texts.eq_nil_or_concat with rfl | ⟨texts, text, rfl⟩
  · exact Or.inl rfl
  · right
    rw [List.concat_eq_append, bufferOfTexts_append, bufferOfTexts_cons, bufferOfTexts_nil,
      ← List.append_assoc]
    exact ⟨unitSeparator, by simp, by decide⟩

/-- A further source unit never loses anything: classes and defined classes stay at the
front, and all relationships stay in their order. -/
theorem scan_grows_of_unit (texts : List String) (text : String) :
    (scan (bufferOfTexts texts)).classes.names <+:
        (scan (bufferOfTexts (texts ++ [text]))).classes.names ∧
      (scan (bufferOfTexts texts)).definitions.map Definition.name <+:
        (scan (bufferOfTexts (texts ++ [text]))).definitions.map Definition.name ∧
      (scan (bufferOfTexts texts)).relationships.entries.Sublist
        (scan (bufferOfTexts (texts ++ [text]))).relationships.entries := by
  rw [bufferOfTexts_append]
  exact scan_grows (endsOutsideName_bufferOfTexts texts) _

end ClassDiagram
