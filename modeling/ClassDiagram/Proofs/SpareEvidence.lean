import ClassDiagram.Proofs.WholeTokens

/-!
# Evidence that can be spared

A body uses a class if it shows evidence of any kind.  This module asks what each kind adds
to the others.  Usage edges are stated for any choice of kinds, and a kind can be spared if
leaving it out changes the usage edges of no definitions.

A kind that is never shown without a certain other one can be spared.  That is so for the
creation of an instance: where a class is created it is mentioned as well.  The other two
kinds are each needed for some body that shows nothing else.

Main results:

- Theorem `usagesBy_inOrder`: all kinds together give the usage edges of a scan.
- Theorem `Evidence.IsSpare.of_entails`: a kind that entails another one can be spared.
- Theorem `Evidence.isSpare_iff`: the creation of an instance is the only such kind.
- Theorem `creation_shows_mention`: what that means for bodies, evidence and usage edges.
-/

namespace ClassDiagram

/-! ## Uses by chosen kinds of evidence -/

/-- Whether the body shows evidence of one of the kinds for the use of the class. -/
def ClassName.isUsedBy (kinds : List Evidence) (target : ClassName) (body : List Char) : Bool :=
  kinds.any (target.isShownIn body)

/-- The uses of other classes for which a definition shows evidence of one of the kinds. -/
def Definition.usagesBy (kinds : List Evidence) (d : Definition) (classes : ClassSet) :
    List Relationship :=
  (classes.names.filter fun target =>
    decide (target ≠ d.name) && target.isUsedBy kinds d.body).map (Relationship.usage d.name)

/-- The uses of classes for which definitions show evidence of one of the kinds. -/
def usagesBy (kinds : List Evidence) (definitions : List Definition) (classes : ClassSet) :
    List Relationship :=
  definitions.flatMap (·.usagesBy kinds classes)

theorem Evidence.mem_inOrder (kind : Evidence) : kind ∈ inOrder := by
  cases kind <;> decide

theorem ClassName.mem_evidenceIn {target : ClassName} {body : List Char} {kind : Evidence} :
    kind ∈ target.evidenceIn body ↔ target.isShownIn body kind = true := by
  rw [evidenceIn_eq_filter, List.mem_filter]
  exact and_iff_right kind.mem_inOrder

theorem ClassName.isUsedBy_inOrder (target : ClassName) (body : List Char) :
    target.isUsedBy Evidence.inOrder body = target.isUsedIn body := by
  rw [Bool.eq_iff_iff, isUsedIn_iff]
  simp [isUsedBy, Evidence.inOrder, isShownIn]

/-- All kinds together give the usage edges of a scan. -/
theorem usagesBy_inOrder (definitions : List Definition) (classes : ClassSet) :
    usagesBy Evidence.inOrder definitions classes = usagesIn definitions classes := by
  simp only [usagesBy, Definition.usagesBy, ClassName.isUsedBy_inOrder, usagesIn,
    Definition.usages]

/-- Kinds that every body shows alike give the same usage edges. -/
theorem usagesBy_congr {kinds kinds' : List Evidence}
    (h : ∀ (target : ClassName) (body : List Char),
      target.isUsedBy kinds body = target.isUsedBy kinds' body)
    (definitions : List Definition) (classes : ClassSet) :
    usagesBy kinds definitions classes = usagesBy kinds' definitions classes := by
  simp only [usagesBy, Definition.usagesBy, h]

/-! ## Kinds that entail others -/

namespace Evidence

/-- Leaving out the kind changes no usage edges. -/
def IsSpare (kind : Evidence) : Prop :=
  ∀ (definitions : List Definition) (classes : ClassSet),
    usagesBy (inOrder.erase kind) definitions classes = usagesIn definitions classes

/-- Where the kind is shown, the other one is shown as well. -/
def Entails (kind other : Evidence) : Prop :=
  ∀ (target : ClassName) (body : List Char),
    target.isShownIn body kind = true → target.isShownIn body other = true

/-- Leaving out a kind makes no difference to a body if the kind entails one that is left. -/
theorem Entails.isUsedBy_erase {kind other : Evidence} (h : kind.Entails other)
    {kinds : List Evidence} (hother : other ∈ kinds.erase kind) (target : ClassName)
    (body : List Char) :
    target.isUsedBy (kinds.erase kind) body = target.isUsedBy kinds body := by
  rw [Bool.eq_iff_iff, ClassName.isUsedBy, ClassName.isUsedBy, List.any_eq_true,
    List.any_eq_true]
  constructor
  · rintro ⟨shown, hmem, hshown⟩
    exact ⟨shown, List.mem_of_mem_erase hmem, hshown⟩
  · rintro ⟨shown, hmem, hshown⟩
    by_cases hkind : shown = kind
    · subst hkind
      exact ⟨other, hother, h target body hshown⟩
    · exact ⟨shown, (List.mem_erase_of_ne hkind).mpr hmem, hshown⟩

/-- A kind that entails another one can be spared. -/
theorem IsSpare.of_entails {kind other : Evidence} (h : kind.Entails other)
    (hne : other ≠ kind) : kind.IsSpare := by
  intro definitions classes
  have hother : other ∈ inOrder.erase kind :=
    (List.mem_erase_of_ne hne).mpr other.mem_inOrder
  rw [usagesBy_congr (h.isUsedBy_erase hother), usagesBy_inOrder]

theorem instantiation_entails_typeReference : instantiation.Entails typeReference :=
  fun _ _ h => ClassName.isMentionedIn_of_isInstantiatedIn h

/-- If a kind can be spared, every body that uses a class shows evidence of another kind. -/
theorem IsSpare.isUsedBy_erase {kind : Evidence} (h : kind.IsSpare) {user target : ClassName}
    (hne : target ≠ user) (body : List Char) :
    target.isUsedBy (inOrder.erase kind) body = target.isUsedIn body := by
  have hedges := h [⟨user, body⟩] ⟨[target]⟩
  rw [← usagesBy_inOrder] at hedges
  rw [← ClassName.isUsedBy_inOrder, Bool.eq_iff_iff]
  have hmem := congrArg (Relationship.usage user target ∈ ·) hedges
  simpa [usagesBy, Definition.usagesBy, hne] using hmem

/-- A body in which only the access to a member shows the use. -/
theorem not_isSpare_staticAccess : ¬ staticAccess.IsSpare := by
  intro h
  have hne : shopConfig ≠ shopClass := by decide
  have hother := h.isUsedBy_erase hne " MyConfig.Load(); ".toList
  revert hother
  decide

/-- A body in which only a mention shows the use. -/
theorem not_isSpare_typeReference : ¬ typeReference.IsSpare := by
  intro h
  have hne : shopConfig ≠ shopClass := by decide
  have hother := h.isUsedBy_erase hne " Config? settings; ".toList
  revert hother
  decide

/-- The creation of an instance is the only kind that can be spared. -/
theorem isSpare_iff {kind : Evidence} : kind.IsSpare ↔ kind = instantiation := by
  constructor
  · intro h
    cases kind with
    | instantiation => rfl
    | staticAccess => exact absurd h not_isSpare_staticAccess
    | typeReference => exact absurd h not_isSpare_typeReference
  · rintro rfl
    exact IsSpare.of_entails instantiation_entails_typeReference (by decide)

end Evidence

/-- A class that is created in a body is mentioned in it, so the evidence never lists the
creation without the mention, and without the pattern for creations all definitions have
the usage edges that they have. -/
theorem creation_shows_mention :
    (∀ (target : ClassName) (body : List Char),
      target.isInstantiatedIn body = true → target.isMentionedIn body = true) ∧
    (∀ (target : ClassName) (body : List Char),
      Evidence.instantiation ∈ target.evidenceIn body →
        Evidence.typeReference ∈ target.evidenceIn body) ∧
    ∀ (definitions : List Definition) (classes : ClassSet),
      usagesBy [.staticAccess, .typeReference] definitions classes =
        usagesIn definitions classes := by
  refine ⟨?_, ?_, ?_⟩
  · intro target body hcreated
    exact ClassName.isMentionedIn_of_isInstantiatedIn hcreated
  · intro target body hlisted
    rw [ClassName.mem_evidenceIn] at hlisted ⊢
    exact Evidence.instantiation_entails_typeReference target body hlisted
  · exact Evidence.isSpare_iff.mpr rfl

/-- A creation with white space of other scripts around the name. -/
theorem creation_shows_mention_shop :
    shopConfig.isInstantiatedIn "é=new\u00a0\u3000Config\u2003(1)".toList = true ∧
      shopConfig.isMentionedIn "é=new\u00a0\u3000Config\u2003(1)".toList = true := by
  have hcreated : shopConfig.isInstantiatedIn "é=new\u00a0\u3000Config\u2003(1)".toList = true := by
    decide
  exact ⟨hcreated, creation_shows_mention.1 shopConfig _ hcreated⟩

end ClassDiagram
