import ClassDiagram.Proofs.Respacing
import ClassDiagram.Proofs.ScanResult

/-!
# Scans of respaced texts

White space ends tokens, stands between the parts of a declaration or a use, and plays
no other part.  Respacings therefore give the same diagram: they declare the same
classes, in bodies that are respacings, and a body keeps its uses when it is respaced.

Main results:

- Theorem `somewhere_respaced`: a pattern that does not start with white space is found
  in both of two respacings or in neither.
- Theorem `ClassName.isUsedIn_respaced`: respaced bodies use the same classes.
- Theorem `scan_respaced`: scans of respacings find the same classes, the same
  definitions up to their bodies, and the same relationships.
-/

namespace ClassDiagram

open Text

variable {bs cs ds : List Char}

/-! ## Patterns -/

/-- White space in front of a text in which a pattern is looked for changes nothing, if
the pattern does not start with white space. -/
theorem somewhere_append_of_blank {test : List Char → Bool}
    (htest : ∀ b more, isBlank b = true → test (b :: more) = false)
    (hbs : ∀ b ∈ bs, isBlank b = true) (cs : List Char) :
    somewhere test (bs ++ cs) = somewhere test cs := by
  induction bs with
  | nil => rfl
  | cons b bs ih =>
      rw [List.cons_append, somewhere, htest b _ (hbs b List.mem_cons_self), Bool.false_or,
        ih fun d hd => hbs d (List.mem_cons_of_mem b hd)]

/-- A pattern that does not start with white space, and whose test holds of respacings
alike, is found in both of them or in neither. -/
theorem somewhere_respaced {test : List Char → Bool}
    (hblank : ∀ b more, isBlank b = true → test (b :: more) = false)
    (htest : ∀ {cs ds}, Respaced cs ds → test cs = test ds) (h : Respaced cs ds) :
    somewhere test cs = somewhere test ds := by
  induction h with
  | nil => rfl
  | keep hc h ih => rw [somewhere, somewhere, htest (.keep hc h), ih]
  | gap hbs hbs' h ih =>
      rw [somewhere_append_of_blank hblank hbs.blank, somewhere_append_of_blank hblank hbs'.blank,
        ih]

/-- Tests of what is read agree where they agree on related readings. -/
theorem any_eq_of_rel {α β : Type} {R : α → β → Prop} {a : Option α} {b : Option β}
    {f : α → Bool} {g : β → Bool} (h : Option.Rel R a b) (hfg : ∀ x y, R x y → f x = g y) :
    a.any f = b.any g := by
  cases h with
  | some hxy => exact hfg _ _ hxy
  | none => rfl

theorem Respaced.head?_dropBlanks (h : Respaced cs ds) :
    (dropBlanks cs).head? = (dropBlanks ds).head? := by
  rcases h.dropBlanks_cases with ⟨hcs, hds⟩ | ⟨c, cs', ds', -, hcs, hds, -⟩
  · rw [hcs, hds]
  · rw [hcs, hds, List.head?_cons, List.head?_cons]

theorem nextIs_respaced (c : Char) (h : Respaced cs ds) : nextIs c cs = nextIs c ds := by
  rw [nextIs, nextIs, h.head?_dropBlanks]

theorem memberFollows_respaced (h : Respaced cs ds) : memberFollows cs = memberFollows ds := by
  rcases h.dropBlanks_cases with ⟨hcs, hds⟩ | ⟨c, cs', ds', -, hcs, hds, h'⟩
  · rw [memberFollows, memberFollows, hcs, hds]
  · rw [memberFollows, memberFollows, hcs, hds]
    split
    next heq =>
      obtain ⟨rfl, rfl⟩ := List.cons.inj heq
      exact congrArg (Option.any isNameStart) h'.head?_dropBlanks
    next hdot =>
      split
      next heq =>
        obtain ⟨rfl, -⟩ := List.cons.inj heq
        exact absurd rfl (hdot cs')
      next => rfl

theorem tokenEnds_of_blank (b : Char) (cs : List Char) (hb : isBlank b = true) :
    tokenEnds (b :: cs) = true := by
  simp [tokenEnds, isWordChar_of_isBlank hb]

theorem tokenEnds_respaced (h : Respaced cs ds) : tokenEnds cs = tokenEnds ds := by
  cases h with
  | nil => rfl
  | keep hc h => rfl
  | gap hbs hbs' h =>
      rw [hbs.eq_of_blank_front tokenEnds_of_blank, hbs'.eq_of_blank_front tokenEnds_of_blank]

/-! ## Evidence of use -/

theorem not_blank_of_mem_newKeyword {c : Char} (h : c ∈ newKeyword) : isBlank c = false := by
  have hall : newKeyword.all isNameChar = true := by decide
  exact isBlank_of_isNameChar (List.all_eq_true.mp hall c h)

section Evidence

variable {target : List Char}

/-- What has a name in front does not start with white space. -/
theorem any_afterLead?_of_blank (hne : target ≠ []) (htarget : ∀ c ∈ target, isBlank c = false)
    (test : List Char → Bool) (b : Char) (cs : List Char) (hb : isBlank b = true) :
    (afterLead? target (b :: cs)).any test = false := by
  rw [afterLead?_of_blank hne htarget b cs hb]
  rfl

/-- Behind the same name, a test that holds of respacings alike has the same result. -/
theorem any_afterLead?_respaced (htarget : ∀ c ∈ target, isBlank c = false)
    {test : List Char → Bool} (htest : ∀ {cs ds}, Respaced cs ds → test cs = test ds)
    (h : Respaced cs ds) : (afterLead? target cs).any test = (afterLead? target ds).any test :=
  any_eq_of_rel (h.rel_afterLead? htarget) fun _ _ => htest

theorem createsAt_of_blank (b : Char) (cs : List Char) (hb : isBlank b = true) :
    createsAt target (b :: cs) = false := by
  have hne : newKeyword ≠ [] := List.cons_ne_nil _ _
  have hkeyword : ∀ c ∈ newKeyword, isBlank c = false := fun _ => not_blank_of_mem_newKeyword
  rw [createsAt, afterLead?_of_blank hne hkeyword b cs hb]
  rfl

theorem createsAt_respaced (htarget : ∀ c ∈ target, isBlank c = false) (h : Respaced cs ds) :
    createsAt target cs = createsAt target ds := by
  have hkeyword : Option.Rel Respaced (afterLead? newKeyword cs) (afterLead? newKeyword ds) :=
    h.rel_afterLead? fun _ hc => not_blank_of_mem_newKeyword hc
  refine any_eq_of_rel (rel_bind hkeyword fun cs₁ ds₁ h₁ => h₁.rel_dropBlanks1?) ?_
  intro cs₂ ds₂ h₂
  exact any_afterLead?_respaced htarget (nextIs_respaced '(') h₂

/-- Behind white space a token may start, whatever stands before it. -/
theorem mentionedFrom_append_of_gap (hne : target ≠ [])
    (htarget : ∀ c ∈ target, isBlank c = false) (hbs : Gap bs) (fresh : Bool) (cs : List Char) :
    mentionedFrom target fresh (bs ++ cs) = mentionedFrom target true cs := by
  obtain ⟨hbs, hblank⟩ := hbs
  induction bs generalizing fresh with
  | nil => exact absurd rfl hbs
  | cons b bs ih =>
      have hb := hblank b List.mem_cons_self
      have hnot : mentionsAt target (b :: (bs ++ cs)) = false :=
        any_afterLead?_of_blank hne htarget tokenEnds b _ hb
      rw [List.cons_append, mentionedFrom, hnot, Bool.and_false, Bool.false_or,
        isNameChar_of_isBlank hb, Bool.not_false]
      by_cases hnil : bs = []
      · rw [hnil, List.nil_append]
      · exact ih true hnil fun d hd => hblank d (List.mem_cons_of_mem b hd)

theorem mentionedFrom_respaced (hne : target ≠ []) (htarget : ∀ c ∈ target, isBlank c = false)
    (h : Respaced cs ds) (fresh : Bool) :
    mentionedFrom target fresh cs = mentionedFrom target fresh ds := by
  induction h generalizing fresh with
  | nil => rfl
  | @keep c cs ds hc h ih =>
      have hmentions : mentionsAt target (c :: cs) = mentionsAt target (c :: ds) :=
        any_afterLead?_respaced htarget tokenEnds_respaced (.keep hc h)
      rw [mentionedFrom, mentionedFrom, hmentions, ih]
  | gap hbs hbs' h ih =>
      rw [mentionedFrom_append_of_gap hne htarget hbs, mentionedFrom_append_of_gap hne htarget hbs',
        ih]

end Evidence

theorem ClassName.not_blank_of_mem {n : ClassName} : ∀ c ∈ n.letters, isBlank c = false :=
  fun _ hc => isBlank_of_isNameChar (ClassName.isNameChar_of_mem hc)

/-- Respaced bodies use the same classes. -/
theorem ClassName.isUsedIn_respaced (target : ClassName) (h : Respaced cs ds) :
    target.isUsedIn cs = target.isUsedIn ds := by
  have hne := target.letters_ne_nil
  have hletters := target.not_blank_of_mem
  have hinstance : target.isInstantiatedIn cs = target.isInstantiatedIn ds :=
    somewhere_respaced createsAt_of_blank (createsAt_respaced hletters) h
  have haccess : target.isAccessedIn cs = target.isAccessedIn ds :=
    somewhere_respaced (any_afterLead?_of_blank hne hletters memberFollows)
      (any_afterLead?_respaced hletters memberFollows_respaced) h
  have hmention : target.isMentionedIn cs = target.isMentionedIn ds :=
    mentionedFrom_respaced hne hletters h true
  rw [isUsedIn, isUsedIn, evidenceIn, evidenceIn, hinstance, haccess, hmention]

/-! ## Definitions -/

/-- Definitions of the same class with bodies that are respacings. -/
structure Definition.Alike (d e : Definition) : Prop where
  name : d.name = e.name
  body : Respaced d.body e.body

theorem Site.Alike.rel_definition? {x y : Site} (h : x.Alike y) :
    Option.Rel Definition.Alike x.definition? y.definition? := by
  have hbody : Option.Rel Respaced x.body? y.body? := h.text.rel_bodyIn?
  rw [Site.definition?, Site.definition?, h.name]
  generalize x.body? = a at hbody ⊢
  generalize y.body? = b at hbody ⊢
  cases hbody with
  | some hbodies => exact .some ⟨rfl, hbodies⟩
  | none => exact .none

theorem Definition.Alike.usages_eq {d e : Definition} (h : d.Alike e) (classes : ClassSet) :
    d.usages classes = e.usages classes := by
  simp only [Definition.usages, h.name, ClassName.isUsedIn_respaced _ h.body]

/-- The definitions in respacings are alike, one by one. -/
theorem Respaced.forall₂_definitionsIn (h : Respaced cs ds) :
    List.Forall₂ Definition.Alike (definitionsIn cs) (definitionsIn ds) := by
  have hgiven : List.Forall₂ Definition.Alike ((sites cs).filterMap Site.definition?)
      ((sites ds).filterMap Site.definition?) :=
    List.rel_filterMap (fun _ _ hxy => hxy.rel_definition?) h.forall₂_sites
  exact forall₂_firstsBy (fun hde => hde.name) hgiven

/-! ## Scans -/

/-- Lists that give the same element by element give the same as a whole. -/
theorem flatMap_eq_of_forall₂ {α β γ : Type} {R : α → β → Prop} {f : α → List γ}
    {g : β → List γ} (hfg : ∀ a b, R a b → f a = g b) {l : List α} {m : List β}
    (h : List.Forall₂ R l m) : l.flatMap f = m.flatMap g := by
  induction h with
  | nil => rfl
  | cons hab _ ih => rw [List.flatMap_cons, List.flatMap_cons, hfg _ _ hab, ih]

/-- Scans of texts that differ only in white space find the same classes, definitions of
the same classes and the same relationships, all in the same order. -/
theorem scan_respaced (h : Respaced cs ds) :
    (scan cs).classes = (scan ds).classes ∧
      (scan cs).definitions.map Definition.name = (scan ds).definitions.map Definition.name ∧
      (scan cs).relationships = (scan ds).relationships := by
  have hsites := h.forall₂_sites
  have hdefinitions := h.forall₂_definitionsIn
  have hclasses : (scan cs).classes = (scan ds).classes := by
    have hsame : ∀ x y : Site, x.Alike y → x.classes = y.classes := by
      intro x y hxy
      rw [Site.classes, Site.classes, hxy.name, hxy.supertype]
    have hnames : (scan cs).classes.names = (scan ds).classes.names := by
      rw [names_scan, names_scan, flatMap_eq_of_forall₂ hsame hsites]
    exact congrArg ClassSet.mk hnames
  have hnames : (scan cs).definitions.map Definition.name =
      (scan ds).definitions.map Definition.name := by
    rw [definitions_scan, definitions_scan, ← List.forall₂_eq_eq_eq,
      List.forall₂_map_left_iff, List.forall₂_map_right_iff]
    exact hdefinitions.imp fun _ _ hde => hde.name
  have hinheritances : inheritancesIn cs = inheritancesIn ds := by
    have hsame : ∀ x y : Site, x.Alike y → x.inheritance = y.inheritance := by
      intro x y hxy
      rw [Site.inheritance, Site.inheritance, hxy.name, hxy.supertype]
    rw [inheritancesIn, inheritancesIn, flatMap_eq_of_forall₂ hsame hsites]
  have husages : usagesIn (scan cs).definitions (scan cs).classes =
      usagesIn (scan ds).definitions (scan ds).classes := by
    rw [definitions_scan, definitions_scan, hclasses]
    exact flatMap_eq_of_forall₂ (fun _ _ hde => hde.usages_eq _) hdefinitions
  have hentries : (scan cs).relationships.entries = (scan ds).relationships.entries := by
    rw [entries_scan, entries_scan, hinheritances, husages]
  exact ⟨hclasses, hnames, congrArg RelationshipLog.mk hentries⟩

/-- A text with line feeds and spaces. -/
def barnText : List Char :=
  "class Cow : Animal \x7b\n  Milk m = new Milk ();\n\x7d\nclass Milk \x7b \x7d\n".toList

/-- The text with carriage returns, tabs and spaces that are not ASCII. -/
def barnTextRespaced : List Char :=
  "class\tCow :\r\nAnimal\u2003\x7b\r\n\tMilk\tm = new\u00a0Milk\t();".toList ++
    "\r\n\x7d\r\nclass Milk \x7b\t\x7d ".toList

/-- The two texts are told apart by nothing that a scan finds, which is two relationships. -/
theorem scan_respaced_barn :
    Respaced barnText barnTextRespaced ∧ barnText ≠ barnTextRespaced ∧
      (scan barnText).relationships.entries.map Relationship.toString =
        ["Animal <|-- Cow", "Cow ..> Milk"] ∧
      (scan barnText).classes = (scan barnTextRespaced).classes ∧
      (scan barnText).definitions.map Definition.name =
        (scan barnTextRespaced).definitions.map Definition.name ∧
      (scan barnText).relationships = (scan barnTextRespaced).relationships := by
  have h : Respaced barnText barnTextRespaced := by decide +kernel
  have hdiffer : barnText ≠ barnTextRespaced := by decide +kernel
  have hfound : (scan barnText).relationships.entries.map Relationship.toString =
      ["Animal <|-- Cow", "Cow ..> Milk"] := by decide +kernel
  exact ⟨h, hdiffer, hfound, scan_respaced h⟩

end ClassDiagram
