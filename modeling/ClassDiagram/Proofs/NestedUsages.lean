import ClassDiagram.Proofs.NestedBodies
import ClassDiagram.Proofs.UsageGrowth
import ClassDiagram.Proofs.WordBoundary

/-!
# Uses in bodies inside bodies

What the body of a class uses, the body around it uses as well.  A body in another one
stands between an opening brace and a closing one or the end.  Neither brace is part of a
name or of a word, so a token that begins or ends with the inner body begins or ends in
the outer one too.

Main results:

- Theorem `ClassName.isUsedIn_between`: the uses in a body are uses in every body around it.
- Theorem `usage_of_nested_class`: the usage edges from a class lead from every class
  around it.
-/

namespace ClassDiagram

open Text

/-! ## Patterns behind other text -/

theorem somewhere_append_left {test : List Char → Bool} {cs : List Char}
    (h : somewhere test cs = true) (lead : List Char) : somewhere test (lead ++ cs) = true := by
  obtain ⟨front, rest, rfl, hrest⟩ := somewhere_iff.mp h
  exact somewhere_iff.mpr ⟨lead ++ front, rest, (List.append_assoc _ _ _).symm, hrest⟩

/-- Behind a character of no name a token may start. -/
theorem mentionedFrom_append_cons {target : List Char} {c : Char} {cs : List Char}
    (hc : isNameChar c = false) (h : mentionedFrom target true cs = true) (fresh : Bool)
    (lead : List Char) : mentionedFrom target fresh (lead ++ c :: cs) = true := by
  induction lead generalizing fresh with
  | nil =>
      rw [List.nil_append, mentionedFrom, hc, Bool.not_false, h, Bool.or_true]
  | cons d lead ih => rw [List.cons_append, mentionedFrom, ih, Bool.or_true]

/-! ## Patterns before other text -/

/-- A token may end before a closing brace. -/
theorem tokenEnds_close (cs : List Char) : tokenEnds ('}' :: cs) = true := by
  have hword : isWordChar '}' = false := isWordChar_eq_isNameChar (by decide)
  rw [tokenEnds, hword]
  rfl

namespace ClassName

variable {target : ClassName} {more : List Char}

/-- A mention stays if a token may end before the text that is added. -/
theorem mentionsAt_append_of_tokenEnds {cs : List Char}
    (h : mentionsAt target.letters cs = true) (hmore : tokenEnds more = true) :
    mentionsAt target.letters (cs ++ more) = true := by
  simp only [mentionsAt, Option.any_eq_true] at h ⊢
  obtain ⟨behind, htarget, htoken⟩ := h
  refine ⟨behind ++ more, afterLead?_append_of_some htarget more, ?_⟩
  cases behind with
  | nil => exact hmore
  | cons c behind => exact tokenEnds_append htoken (List.cons_ne_nil c behind) more

theorem mentionedFrom_append_of_tokenEnds {fresh : Bool} {cs : List Char}
    (h : mentionedFrom target.letters fresh cs = true) (hmore : tokenEnds more = true) :
    mentionedFrom target.letters fresh (cs ++ more) = true := by
  induction cs generalizing fresh with
  | nil =>
      rw [mentionedFrom, not_mentionsAt_nil, Bool.and_false] at h
      cases h
  | cons c cs ih =>
      rw [mentionedFrom, Bool.or_eq_true, Bool.and_eq_true] at h
      rw [List.cons_append, mentionedFrom, Bool.or_eq_true, Bool.and_eq_true]
      rcases h with ⟨hfresh, hhere⟩ | hlater
      · exact Or.inl ⟨hfresh, mentionsAt_append_of_tokenEnds hhere hmore⟩
      · exact Or.inr (ih hlater)

/-- The uses in a body are uses in every body around it, if a token may end behind the
inner body. -/
theorem isUsedIn_between {body : List Char} (h : target.isUsedIn body = true)
    (hmore : tokenEnds more = true) (gap : List Char) :
    target.isUsedIn (gap ++ '{' :: (body ++ more)) = true := by
  have hplace : gap ++ '{' :: (body ++ more) = gap ++ ['{'] ++ (body ++ more) := by simp
  rw [isUsedIn_iff] at h ⊢
  rcases h with hcreated | haccessed | hmentioned
  · left
    rw [hplace]
    exact somewhere_append_left (isInstantiatedIn_append hcreated more) _
  · right; left
    rw [hplace]
    exact somewhere_append_left (isAccessedIn_append haccessed more) _
  · right; right
    exact mentionedFrom_append_cons (by decide)
      (mentionedFrom_append_of_tokenEnds hmentioned hmore) true gap

end ClassName

/-! ## Usage edges from one class -/

/-- A usage edge leads from a class to the classes that its recorded body uses. -/
theorem usage_mem_entries_iff {buffer : List Char} {source target : ClassName} :
    .usage source target ∈ (scan buffer).relationships.entries ↔
      ∃ body, (scan buffer).body? source = some body ∧
        target ∈ (scan buffer).classes.names ∧ target ≠ source ∧ target.isUsedIn body = true := by
  have hview : .usage source target ∈ (scan buffer).relationships.entries ↔
      .usage source target ∈ (scan buffer).usagesOf source := by
    simp [Findings.usagesOf, Relationship.usage]
  rw [hview, usagesOf_scan]
  simp [Definition.usages, Relationship.usage]

/-! ## Classes inside classes -/

/-- The position is one of those in the range. -/
def ByteRange.Holds (r : ByteRange) (position : Nat) : Prop :=
  r.first ≤ position ∧ position < r.behind

instance (r : ByteRange) (position : Nat) : Decidable (r.Holds position) :=
  inferInstanceAs (Decidable (r.first ≤ position ∧ position < r.behind))

/-- The recorded body of a class stands at its range. -/
theorem exists_isBody_of_recordedRange? {buffer : List Char} {name : ClassName} {r : ByteRange}
    (h : recordedRange? buffer name = some r) :
    ∃ before inner, r.IsBody buffer before inner ∧
      (scan buffer).body? name = some (spanToClose 0 inner) := by
  rw [recordedRange?_eq_bind] at h
  obtain ⟨x, hfind, hrange⟩ := Option.bind_eq_some_iff.mp h
  obtain ⟨before, inner, hbody, hfrom⟩ := exists_isBody_of_bodyRangeFrom? hrange
  refine ⟨before, inner, hbody, ?_⟩
  rw [body?_scan, hfind, Option.bind_some, ← hfrom,
    Site.bodyFrom?_start (suffix_of_mem_sites (List.mem_of_find?_eq_some hfind))]

/-- A body whose opening brace stands in another body stands in it up to a place where a
token may end. -/
theorem ByteRange.IsBody.exists_between {buffer before before' inner inner' : List Char}
    {r q : ByteRange} (hr : r.IsBody buffer before inner) (hq : q.IsBody buffer before' inner')
    (hholds : r.Holds q.openingBrace) :
    ∃ gap more, spanToClose 0 inner = gap ++ '{' :: (spanToClose 0 inner' ++ more) ∧
      tokenEnds more = true := by
  obtain ⟨hfirst, hbehind⟩ := hholds
  have hlt : r.openingBrace < q.openingBrace := by
    rw [hr.first_eq] at hfirst
    rw [hr.openingBrace_eq]
    omega
  rcases hr.around_or_behind hq hlt with ⟨gap, opened, -, hspan⟩ | ⟨-, hpast⟩
  · rcases spanToClose_succ opened inner' with ⟨behind, -, hmore⟩ | ⟨-, hmore⟩
    · exact ⟨gap, '}' :: spanToClose opened behind, by rw [hspan, hmore], tokenEnds_close _⟩
    · exact ⟨gap, [], by rw [hspan, hmore, List.append_nil], rfl⟩
  · omega

/-- A class in another class: if the recorded body of the one is opened inside that of the
other, each usage edge from the inner class is there from the outer class too, except for
one to the outer class itself. -/
theorem usage_of_nested_class {buffer : List Char} {outer inner target : ClassName}
    {r q : ByteRange} (hr : recordedRange? buffer outer = some r)
    (hq : recordedRange? buffer inner = some q) (hholds : r.Holds q.openingBrace)
    (htarget : target ≠ outer)
    (huse : .usage inner target ∈ (scan buffer).relationships.entries) :
    .usage outer target ∈ (scan buffer).relationships.entries := by
  obtain ⟨_, _, hrbody, houter⟩ := exists_isBody_of_recordedRange? hr
  obtain ⟨_, _, hqbody, hinner⟩ := exists_isBody_of_recordedRange? hq
  obtain ⟨gap, more, hspan, hmore⟩ := hrbody.exists_between hqbody hholds
  obtain ⟨body, hbody, hclass, -, hused⟩ := usage_mem_entries_iff.mp huse
  obtain rfl := Option.some.inj (hinner.symm.trans hbody)
  refine usage_mem_entries_iff.mpr ⟨_, houter, hclass, htarget, ?_⟩
  rw [hspan]
  exact ClassName.isUsedIn_between hused hmore gap

/-- The class that the last class of the farm uses. -/
def farmHen : ClassName := ⟨"Hen".toList, by decide⟩

/-- The farm uses what the last class in it uses. -/
theorem usage_of_nested_class_farm :
    recordedRange? farmText farmClass = some ⟨12, 54⟩ ∧
      recordedRange? farmText farmCow = some ⟨49, 53⟩ ∧
      ByteRange.Holds ⟨12, 54⟩ (ByteRange.openingBrace ⟨49, 53⟩) ∧ farmHen ≠ farmClass ∧
      .usage farmCow farmHen ∈ (scan farmText).relationships.entries ∧
      .usage farmClass farmHen ∈ (scan farmText).relationships.entries := by
  have houter : recordedRange? farmText farmClass = some ⟨12, 54⟩ := by decide +kernel
  have hinner : recordedRange? farmText farmCow = some ⟨49, 53⟩ := by decide +kernel
  have hholds : ByteRange.Holds ⟨12, 54⟩ (ByteRange.openingBrace ⟨49, 53⟩) := by decide
  have hne : farmHen ≠ farmClass := by decide
  have huse : .usage farmCow farmHen ∈ (scan farmText).relationships.entries := by decide +kernel
  exact ⟨houter, hinner, hholds, hne, huse,
    usage_of_nested_class houter hinner hholds hne huse⟩

end ClassDiagram
