import ClassDiagram.Proofs.Reading
import ClassDiagram.Scan.Usage
import Mathlib.Data.List.Forall2

/-!
# Uses in longer bodies

A body that grows keeps the uses it makes of classes.  The creation of an
instance and the access to a member are seen in full and stay where they are.  A
mention is seen by the end of a token, and the end of the body is one; it stays
an end only if the body does not break off inside a name.

Main results:

- Theorem `ClassName.isUsedIn_append`: the uses in a body that does not end inside
  a name are uses in every longer body.
- Theorem `usagesIn_sublist`: grown definitions and further classes keep all usage
  edges, in order.
-/

namespace ClassDiagram

open Text

/-! ## Patterns in longer texts -/

/-- A test that holds of longer texts finds its pattern in longer texts. -/
theorem somewhere_append {test : List Char → Bool} {more : List Char}
    (htest : ∀ rest, test rest = true → test (rest ++ more) = true) {cs : List Char}
    (h : somewhere test cs = true) : somewhere test (cs ++ more) = true := by
  obtain ⟨lead, rest, rfl, hrest⟩ := somewhere_iff.mp h
  exact somewhere_iff.mpr ⟨lead, rest ++ more, by rw [List.append_assoc], htest rest hrest⟩

theorem nextIs_append {c : Char} {cs : List Char} (h : nextIs c cs = true) (more : List Char) :
    nextIs c (cs ++ more) = true := by
  have hne : dropBlanks cs ≠ [] := by
    intro hnil
    rw [nextIs, hnil] at h
    cases h
  rw [nextIs, dropBlanks_append hne, List.head?_append_of_ne_nil _ hne]
  exact h

theorem createsAt_append {target cs : List Char} (h : createsAt target cs = true)
    (more : List Char) : createsAt target (cs ++ more) = true := by
  simp only [createsAt, Option.any_eq_true, Option.bind_eq_some_iff] at h ⊢
  obtain ⟨atTarget, ⟨afterNew, hnew, hblanks⟩, behind, htarget, hparen⟩ := h
  have hat : atTarget ≠ [] := by
    rintro rfl
    obtain ⟨-, rfl⟩ := List.append_eq_nil_iff.mp (afterLead?_eq_some_iff.mp htarget).symm
    cases hparen
  exact ⟨atTarget ++ more,
    ⟨afterNew ++ more, afterLead?_append_of_some hnew more,
      dropBlanks1?_append_of_some hblanks hat more⟩,
    behind ++ more, afterLead?_append_of_some htarget more, nextIs_append hparen more⟩

theorem memberFollows_append {cs : List Char} (h : memberFollows cs = true) (more : List Char) :
    memberFollows (cs ++ more) = true := by
  unfold memberFollows at h
  split at h
  next t hdot =>
    have hne : dropBlanks t ≠ [] := by
      intro hnil
      rw [hnil] at h
      cases h
    have hdrop : dropBlanks (cs ++ more) = '.' :: (t ++ more) := by
      rw [dropBlanks_append (by rw [hdot]; exact List.cons_ne_nil _ _), hdot, List.cons_append]
    rw [memberFollows, hdrop]
    change (dropBlanks (t ++ more)).head?.any isNameStart = true
    rw [dropBlanks_append hne, List.head?_append_of_ne_nil _ hne]
    exact h
  next => cases h

theorem accessesAt_append {target cs : List Char} (h : accessesAt target cs = true)
    (more : List Char) : accessesAt target (cs ++ more) = true := by
  simp only [accessesAt, Option.any_eq_true] at h ⊢
  obtain ⟨behind, htarget, hmember⟩ := h
  exact ⟨behind ++ more, afterLead?_append_of_some htarget more,
    memberFollows_append hmember more⟩

theorem tokenEnds_append {cs : List Char} (h : tokenEnds cs = true) (hcs : cs ≠ [])
    (more : List Char) : tokenEnds (cs ++ more) = true := by
  cases cs with
  | nil => exact absurd rfl hcs
  | cons c cs => exact h

namespace ClassName

/-- A mention ends where a token ends.  Text behind the mention takes that away only
where the token ends with the text. -/
theorem mentionsAt_append {target : ClassName} {cs : List Char}
    (h : mentionsAt target.letters cs = true) (hend : EndsOutsideName cs) (more : List Char) :
    mentionsAt target.letters (cs ++ more) = true := by
  simp only [mentionsAt, Option.any_eq_true] at h ⊢
  obtain ⟨behind, htarget, htoken⟩ := h
  have hbehind : behind ≠ [] := by
    rintro rfl
    rw [afterLead?_eq_some_iff, List.append_nil] at htarget
    rw [htarget] at hend
    exact not_endsOutsideName_of_all (fun c hc => isNameChar_of_mem hc) hend
  exact ⟨behind ++ more, afterLead?_append_of_some htarget more,
    tokenEnds_append htoken hbehind more⟩

theorem not_mentionsAt_nil (target : ClassName) : mentionsAt target.letters [] = false := by
  rw [mentionsAt]
  cases hafter : afterLead? target.letters [] with
  | none => rfl
  | some rest =>
      have hnil := (afterLead?_eq_some_iff.mp hafter).symm
      exact absurd (List.append_eq_nil_iff.mp hnil).1 target.letters_ne_nil

/-- Mentions in a text that does not end inside a name stay. -/
theorem mentionedFrom_append {target : ClassName} {fresh : Bool} {cs : List Char}
    (h : mentionedFrom target.letters fresh cs = true) (hend : cs = [] ∨ EndsOutsideName cs)
    (more : List Char) : mentionedFrom target.letters fresh (cs ++ more) = true := by
  induction cs generalizing fresh with
  | nil =>
      rw [mentionedFrom, not_mentionsAt_nil, Bool.and_false] at h
      cases h
  | cons c cs ih =>
      have hcs : EndsOutsideName (c :: cs) := hend.resolve_left (by simp)
      rw [List.cons_append, mentionedFrom, Bool.or_eq_true, Bool.and_eq_true]
      rw [mentionedFrom, Bool.or_eq_true, Bool.and_eq_true] at h
      rcases h with ⟨hfresh, hhere⟩ | hlater
      · exact Or.inl ⟨hfresh, mentionsAt_append hhere hcs more⟩
      · exact Or.inr (ih hlater (hcs.eq_nil_or_of_suffix (List.suffix_cons c cs)))

theorem isInstantiatedIn_append {target : ClassName} {body : List Char}
    (h : target.isInstantiatedIn body = true) (more : List Char) :
    target.isInstantiatedIn (body ++ more) = true := by
  have hcreates : ∀ rest, createsAt target.letters rest = true →
      createsAt target.letters (rest ++ more) = true :=
    fun rest hrest => createsAt_append hrest more
  exact somewhere_append hcreates h

theorem isAccessedIn_append {target : ClassName} {body : List Char}
    (h : target.isAccessedIn body = true) (more : List Char) :
    target.isAccessedIn (body ++ more) = true := by
  have haccesses : ∀ rest, accessesAt target.letters rest = true →
      accessesAt target.letters (rest ++ more) = true :=
    fun rest hrest => accessesAt_append hrest more
  exact somewhere_append haccesses h

/-- The uses in a body that does not end inside a name are uses in every longer
body. -/
theorem isUsedIn_append {target : ClassName} {body : List Char}
    (h : target.isUsedIn body = true) (hend : body = [] ∨ EndsOutsideName body)
    (more : List Char) : target.isUsedIn (body ++ more) = true := by
  rw [isUsedIn_iff] at h ⊢
  rcases h with hcreated | haccessed | hmentioned
  · exact Or.inl (isInstantiatedIn_append hcreated more)
  · exact Or.inr (Or.inl (isAccessedIn_append haccessed more))
  · exact Or.inr (Or.inr (mentionedFrom_append hmentioned hend more))

end ClassName

/-! ## Grown definitions -/

/-- The later definition is of the same class and uses whatever the earlier one
uses. -/
def Definition.Grows (earlier later : Definition) : Prop :=
  earlier.name = later.name ∧
    ∀ target : ClassName, target.isUsedIn earlier.body = true →
      target.isUsedIn later.body = true

/-- The later definitions start with the earlier ones, grown, in the same order. -/
def GrownTo (earlier later : List Definition) : Prop :=
  ∃ grown, grown <+: later ∧ List.Forall₂ Definition.Grows earlier grown

theorem GrownTo.nil (es : List Definition) : GrownTo [] es :=
  ⟨[], List.nil_prefix, .nil⟩

theorem GrownTo.cons {d e : Definition} {ds es : List Definition} (hde : d.Grows e)
    (h : GrownTo ds es) : GrownTo (d :: ds) (e :: es) := by
  obtain ⟨grown, hprefix, hgrown⟩ := h
  exact ⟨e :: grown, (List.prefix_cons_inj e).mpr hprefix, .cons hde hgrown⟩

theorem GrownTo.prefix_names {ds es : List Definition} (h : GrownTo ds es) :
    ds.map Definition.name <+: es.map Definition.name := by
  obtain ⟨grown, hprefix, hgrown⟩ := h
  have hnames : List.Forall₂ Eq (ds.map Definition.name) (grown.map Definition.name) := by
    rw [List.forall₂_map_left_iff, List.forall₂_map_right_iff]
    exact hgrown.imp fun _ _ hde => hde.1
  rw [List.forall₂_eq_eq_eq] at hnames
  rw [hnames]
  exact hprefix.map Definition.name

/-- A grown definition keeps its usage edges, also if there are further classes. -/
theorem Definition.Grows.usages_sublist {d e : Definition} (h : d.Grows e)
    {classes classes' : ClassSet} (hclasses : classes.names <+: classes'.names) :
    (d.usages classes).Sublist (e.usages classes') := by
  obtain ⟨hname, hused⟩ := h
  unfold Definition.usages
  rw [hname]
  apply List.Sublist.map
  refine (List.monotone_filter_right _ ?_).trans (hclasses.sublist.filter _)
  intro target ht
  rw [Bool.and_eq_true] at ht ⊢
  exact ⟨ht.1, hused target ht.2⟩

/-- Grown definitions and further classes keep all usage edges, in order. -/
theorem usagesIn_sublist {ds es : List Definition} (h : GrownTo ds es)
    {classes classes' : ClassSet} (hclasses : classes.names <+: classes'.names) :
    (usagesIn ds classes).Sublist (usagesIn es classes') := by
  obtain ⟨grown, ⟨further, rfl⟩, hgrown⟩ := h
  rw [usagesIn, usagesIn, List.flatMap_append]
  refine List.Sublist.trans ?_ (List.sublist_append_left _ _)
  induction hgrown with
  | nil => exact List.Sublist.refl _
  | cons hde _ ih =>
      rw [List.flatMap_cons, List.flatMap_cons]
      exact (hde.usages_sublist hclasses).append ih

end ClassDiagram
