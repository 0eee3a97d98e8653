import ClassDiagram.Scan.Declaration
import Mathlib.Data.List.Basic

/-!
# Reading from longer texts

A heading is read off the front of a text by smaller readers, each of which
leaves a rest.  What follows the text decides nothing about a reading that leaves
something behind; it can matter only where the text breaks off in the middle of
a heading.

Main results:

- Theorem `Heading.suffix_rest_of_read?`: a heading leaves an end of the text.
- Theorem `Heading.read?_append`: the heading at the front of a text is settled unless
  the text ends inside a name or breaks off in the middle of the heading.
-/

namespace ClassDiagram

open Text

/-! ## What readers leave -/

theorem ClassName.isNameChar_of_mem {n : ClassName} {c : Char} (h : c ∈ n.letters) :
    isNameChar c = true := by
  obtain ⟨letters, hname⟩ := n
  cases letters with
  | nil => cases h
  | cons d letters =>
      simp only [isName, Bool.and_eq_true, List.all_eq_true] at hname
      rcases List.mem_cons.mp h with rfl | h
      · exact isNameChar_of_isNameStart hname.1
      · exact hname.2 c h

theorem ClassName.suffix_of_read? {cs rest : List Char} {n : ClassName}
    (h : ClassName.read? cs = some (n, rest)) : rest <:+ cs :=
  ⟨n.letters, ClassName.append_of_read? h⟩

theorem Text.dropBlanks_suffix (cs : List Char) : dropBlanks cs <:+ cs :=
  List.dropWhile_suffix isBlank

theorem Text.suffix_of_dropBlanks1? {cs rest : List Char} (h : dropBlanks1? cs = some rest) :
    rest <:+ cs := by
  unfold dropBlanks1? at h
  split at h
  next c cs =>
    split at h
    · cases h
      exact (dropBlanks_suffix cs).trans (List.suffix_cons c cs)
    · cases h
  next => cases h

theorem suffix_of_readSupertype? {cs rest : List Char} {n : ClassName}
    (h : readSupertype? cs = some (n, rest)) : rest <:+ cs := by
  unfold readSupertype? at h
  split at h
  next cs =>
    exact ((ClassName.suffix_of_read? h).trans (dropBlanks_suffix cs)).trans
      (List.suffix_cons ':' cs)
  next => cases h

namespace Heading

theorem suffix_rest_ofName (name : ClassName) (cs : List Char) : (ofName name cs).rest <:+ cs := by
  unfold ofName
  split
  next h => exact (suffix_of_readSupertype? h).trans (dropBlanks_suffix cs)
  next => exact dropBlanks_suffix cs

@[simp]
theorem name_ofName (name : ClassName) (cs : List Char) : (ofName name cs).name = name := by
  unfold ofName
  split <;> rfl

/-- A heading is the keyword, white space and a name, with the rest of a heading
behind them. -/
theorem read?_eq_some_iff {cs : List Char} {h : Heading} :
    read? cs = some h ↔
      ∃ afterKeyword atName tail, afterLead? classKeyword cs = some afterKeyword ∧
        dropBlanks1? afterKeyword = some atName ∧
        ClassName.read? atName = some (h.name, tail) ∧ h = ofName h.name tail := by
  simp only [read?, bind, Option.bind_eq_some_iff, Option.some.injEq, pure]
  constructor
  · rintro ⟨afterKeyword, hkeyword, atName, hblanks, ⟨name, tail⟩, hname, rfl⟩
    exact ⟨afterKeyword, atName, tail, hkeyword, hblanks, by simpa using hname, by simp⟩
  · rintro ⟨afterKeyword, atName, tail, hkeyword, hblanks, hname, hh⟩
    exact ⟨afterKeyword, hkeyword, atName, hblanks, (h.name, tail), hname, hh.symm⟩

theorem suffix_rest_of_read? {cs : List Char} {h : Heading} (hr : read? cs = some h) :
    h.rest <:+ cs := by
  obtain ⟨afterKeyword, atName, tail, hkeyword, hblanks, hname, hh⟩ := read?_eq_some_iff.mp hr
  have hafter : afterKeyword <:+ cs := by
    rw [afterLead?_eq_some_iff.mp hkeyword]
    exact List.suffix_append _ _
  rw [hh]
  exact (((suffix_rest_ofName h.name tail).trans (ClassName.suffix_of_read? hname)).trans
    (suffix_of_dropBlanks1? hblanks)).trans hafter

end Heading

/-! ## Texts that do not end inside a name -/

/-- The text ends in a character that no name contains, so that nothing behind it
lengthens a name in it. -/
def EndsOutsideName (cs : List Char) : Prop :=
  ∃ c ∈ cs.getLast?, isNameChar c = false

theorem endsOutsideName_append {lead cs : List Char} (hcs : cs ≠ []) :
    EndsOutsideName (lead ++ cs) ↔ EndsOutsideName cs := by
  rw [EndsOutsideName, EndsOutsideName, List.getLast?_append_of_ne_nil lead hcs]

theorem EndsOutsideName.of_suffix {cs rest : List Char} (h : EndsOutsideName cs)
    (hrest : rest ≠ []) (hsuffix : rest <:+ cs) : EndsOutsideName rest := by
  obtain ⟨lead, rfl⟩ := hsuffix
  exact (endsOutsideName_append hrest).mp h

/-- The same of any end of the text, if something is left of it. -/
theorem EndsOutsideName.eq_nil_or_of_suffix {cs rest : List Char} (h : EndsOutsideName cs)
    (hsuffix : rest <:+ cs) : rest = [] ∨ EndsOutsideName rest := by
  by_cases hnil : rest = []
  · exact Or.inl hnil
  · exact Or.inr (h.of_suffix hnil hsuffix)

theorem not_endsOutsideName_of_all {cs : List Char} (h : ∀ c ∈ cs, isNameChar c = true) :
    ¬ EndsOutsideName cs := by
  rintro ⟨c, hc, hfalse⟩
  rw [h c (List.mem_of_getLast? hc)] at hfalse
  cases hfalse

/-! ## Readings that what follows does not change -/

section Append

variable {cs rest more : List Char} {n : ClassName}

theorem Text.afterLead?_append_of_some {lead : List Char} (h : afterLead? lead cs = some rest)
    (more : List Char) : afterLead? lead (cs ++ more) = some (rest ++ more) := by
  rw [afterLead?_eq_some_iff] at h ⊢
  rw [h, List.append_assoc]

/-- A text that does not start with a lead does so with more behind it only if it is
itself the start of the lead. -/
theorem Text.afterLead?_append_of_none {lead : List Char} (h : afterLead? lead cs = none)
    (hlead : ¬ cs <+: lead) (more : List Char) : afterLead? lead (cs ++ more) = none := by
  cases hafter : afterLead? lead (cs ++ more) with
  | none => rfl
  | some rest =>
      rw [afterLead?_eq_some_iff] at hafter
      rcases List.append_eq_append_iff.mp hafter with ⟨gap, hgap, -⟩ | ⟨gap, rfl, -⟩
      · exact absurd ⟨gap, hgap.symm⟩ hlead
      · rw [afterLead?_append] at h
        cases h

theorem dropWhile_append_of_ne_nil {p : Char → Bool} (h : cs.dropWhile p ≠ [])
    (more : List Char) : (cs ++ more).dropWhile p = cs.dropWhile p ++ more := by
  rw [List.dropWhile_append, if_neg]
  rwa [List.isEmpty_iff]

theorem takeWhile_append_of_ne_nil {p : Char → Bool} (h : cs.dropWhile p ≠ [])
    (more : List Char) : (cs ++ more).takeWhile p = cs.takeWhile p := by
  have hdrop := dropWhile_append_of_ne_nil h more
  have hall : (cs ++ more).takeWhile p ++ (cs.dropWhile p ++ more) =
      cs.takeWhile p ++ (cs.dropWhile p ++ more) := by
    rw [← hdrop, List.takeWhile_append_dropWhile, hdrop, ← List.append_assoc,
      List.takeWhile_append_dropWhile]
  exact List.append_cancel_right hall

theorem Text.dropBlanks_append (h : dropBlanks cs ≠ []) (more : List Char) :
    dropBlanks (cs ++ more) = dropBlanks cs ++ more :=
  dropWhile_append_of_ne_nil h more

theorem Text.dropBlanks1?_append_of_some (h : dropBlanks1? cs = some rest) (hrest : rest ≠ [])
    (more : List Char) : dropBlanks1? (cs ++ more) = some (rest ++ more) := by
  cases cs with
  | nil => cases h
  | cons c cs =>
      by_cases hc : isBlank c = true
      · simp only [dropBlanks1?, hc, if_true, Option.some.injEq] at h
        subst h
        simp only [List.cons_append, dropBlanks1?, hc, if_true, dropBlanks_append hrest]
      · simp [dropBlanks1?, hc] at h

theorem Text.dropBlanks1?_append_of_none (h : dropBlanks1? cs = none) (hcs : cs ≠ [])
    (more : List Char) : dropBlanks1? (cs ++ more) = none := by
  cases cs with
  | nil => exact absurd rfl hcs
  | cons c cs =>
      by_cases hc : isBlank c = true
      · simp [dropBlanks1?, hc] at h
      · simp [dropBlanks1?, hc]

theorem ClassName.read?_append_of_some (h : ClassName.read? cs = some (n, rest))
    (hrest : rest ≠ []) (more : List Char) :
    ClassName.read? (cs ++ more) = some (n, rest ++ more) := by
  cases cs with
  | nil => cases h
  | cons c cs =>
      by_cases hc : isNameStart c = true
      · simp only [ClassName.read?, hc, dif_pos, Option.some.injEq, Prod.mk.injEq] at h
        obtain ⟨rfl, rfl⟩ := h
        simp [ClassName.read?, hc, takeWhile_append_of_ne_nil hrest,
          dropWhile_append_of_ne_nil hrest]
      · simp [ClassName.read?, hc] at h

theorem ClassName.read?_append_of_none (h : ClassName.read? cs = none) (hcs : cs ≠ [])
    (more : List Char) : ClassName.read? (cs ++ more) = none := by
  cases cs with
  | nil => exact absurd rfl hcs
  | cons c cs =>
      by_cases hc : isNameStart c = true
      · simp [ClassName.read?, hc] at h
      · simp [ClassName.read?, hc]

/-- Behind a name that is read off a text that does not end inside one, something is
left. -/
theorem ClassName.rest_ne_nil (h : ClassName.read? cs = some (n, rest))
    (hend : EndsOutsideName cs) : rest ≠ [] := by
  rintro rfl
  have hcs := ClassName.append_of_read? h
  rw [List.append_nil] at hcs
  rw [← hcs] at hend
  exact not_endsOutsideName_of_all (fun c hc => isNameChar_of_mem hc) hend

theorem readSupertype?_append_of_some (h : readSupertype? cs = some (n, rest))
    (hrest : rest ≠ []) (more : List Char) :
    readSupertype? (cs ++ more) = some (n, rest ++ more) := by
  unfold readSupertype? at h
  split at h
  next cs =>
    have hblanks : dropBlanks cs ≠ [] := by
      intro hnil
      rw [hnil] at h
      cases h
    rw [List.cons_append]
    change ClassName.read? (dropBlanks (cs ++ more)) = some (n, rest ++ more)
    rw [dropBlanks_append hblanks]
    exact ClassName.read?_append_of_some h hrest more
  next => cases h

theorem readSupertype?_append_of_none (h : readSupertype? cs = none) (hcs : cs ≠ [])
    (hcolon : ∀ t, cs = ':' :: t → dropBlanks t ≠ []) (more : List Char) :
    readSupertype? (cs ++ more) = none := by
  cases cs with
  | nil => exact absurd rfl hcs
  | cons c cs =>
      by_cases hc : c = ':'
      · subst hc
        have hblanks := hcolon cs rfl
        change ClassName.read? (dropBlanks (cs ++ more)) = none
        rw [dropBlanks_append hblanks]
        exact ClassName.read?_append_of_none h hblanks more
      · unfold readSupertype?
        split
        next heq => exact absurd (List.cons.inj heq).1 hc
        next => rfl

end Append

/-! ## Headings in longer texts -/

/-- What follows a name may still go on to a supertype: it is white space, or white
space around a colon. -/
def AwaitsSupertype (cs : List Char) : Prop :=
  dropBlanks cs = [] ∨ ∃ t, dropBlanks cs = ':' :: t ∧ dropBlanks t = []

/-- The text breaks off where a heading may still get its name or its supertype. -/
def Dangling (cs : List Char) : Prop :=
  ∃ afterKeyword atName, afterLead? classKeyword cs = some afterKeyword ∧
    dropBlanks1? afterKeyword = some atName ∧
    (atName = [] ∨ ∃ name tail, ClassName.read? atName = some (name, tail) ∧ tail ≠ [] ∧
      AwaitsSupertype tail)

namespace Heading

/-- A heading that leaves more of a text. -/
def extend (h : Heading) (more : List Char) : Heading :=
  { h with rest := h.rest ++ more }

theorem ofName_append {tail : List Char} (htail : ¬ AwaitsSupertype tail) (name : ClassName)
    (hrest : (ofName name tail).rest ≠ []) (more : List Char) :
    ofName name (tail ++ more) = (ofName name tail).extend more := by
  have hblanks : dropBlanks tail ≠ [] := fun hnil => htail (Or.inl hnil)
  have hcolon : ∀ t, dropBlanks tail = ':' :: t → dropBlanks t ≠ [] :=
    fun t ht hnil => htail (Or.inr ⟨t, ht, hnil⟩)
  unfold ofName at hrest ⊢
  rw [dropBlanks_append hblanks]
  cases hread : readSupertype? (dropBlanks tail) with
  | none =>
      rw [readSupertype?_append_of_none hread hblanks hcolon]
      rfl
  | some p =>
      obtain ⟨supertype, rest⟩ := p
      rw [hread] at hrest
      rw [readSupertype?_append_of_some hread hrest]
      rfl

/-- Where a supertype may still come, none is read yet. -/
theorem ofName_of_awaitsSupertype {tail : List Char} (h : AwaitsSupertype tail)
    (name : ClassName) : ofName name tail = ⟨name, none, dropBlanks tail⟩ := by
  have hnone : readSupertype? (dropBlanks tail) = none := by
    rcases h with h | ⟨t, h, ht⟩
    · rw [h]
      rfl
    · rw [h, readSupertype?, ht, ClassName.read?_nil]
  rw [ofName, hnone]

theorem rest_ofName_ne_nil {tail : List Char} (hend : EndsOutsideName tail)
    (htail : ¬ AwaitsSupertype tail) (name : ClassName) : (ofName name tail).rest ≠ [] := by
  have hblanks : dropBlanks tail ≠ [] := fun hnil => htail (Or.inl hnil)
  unfold ofName
  split
  next supertype rest hread =>
    obtain ⟨t, ht⟩ : ∃ t, dropBlanks tail = ':' :: t := by
      unfold readSupertype? at hread
      split at hread
      next t heq => exact ⟨t, heq⟩
      next => cases hread
    rw [ht] at hread
    have hsuffix : dropBlanks t <:+ tail :=
      ((dropBlanks_suffix t).trans ⟨[':'], ht.symm⟩).trans (dropBlanks_suffix tail)
    have hne : dropBlanks t ≠ [] := fun hnil => htail (Or.inr ⟨t, ht, hnil⟩)
    exact ClassName.rest_ne_nil hread (hend.of_suffix hne hsuffix)
  next => exact hblanks

theorem read?_eq_bind (cs : List Char) :
    read? cs =
      (afterLead? classKeyword cs).bind fun afterKeyword =>
        (dropBlanks1? afterKeyword).bind fun atName =>
          (ClassName.read? atName).bind fun p => some (ofName p.1 p.2) :=
  rfl

/-- The keyword could be a name. -/
theorem isNameChar_of_mem_classKeyword {c : Char} (h : c ∈ classKeyword) :
    isNameChar c = true := by
  have hall : classKeyword.all isNameChar = true := by decide
  exact List.all_eq_true.mp hall c h

theorem not_endsOutsideName_of_prefix {cs : List Char} (h : cs <+: classKeyword) :
    ¬ EndsOutsideName cs :=
  not_endsOutsideName_of_all fun _ hc => isNameChar_of_mem_classKeyword (h.subset hc)

/-- What follows a text that does not end inside a name changes nothing about the
heading at its front, unless the text breaks off in the middle of that heading. -/
theorem read?_append {cs : List Char} (hend : EndsOutsideName cs) (hdangling : ¬ Dangling cs)
    (more : List Char) : read? (cs ++ more) = (read? cs).map fun h => h.extend more := by
  rw [read?_eq_bind, read?_eq_bind]
  cases hkeyword : afterLead? classKeyword cs with
  | none =>
      have hlead : ¬ cs <+: classKeyword := fun h => not_endsOutsideName_of_prefix h hend
      rw [afterLead?_append_of_none hkeyword hlead]
      rfl
  | some afterKeyword =>
      have hcs := afterLead?_eq_some_iff.mp hkeyword
      have hafter : afterKeyword ≠ [] := by
        rintro rfl
        rw [List.append_nil] at hcs
        exact not_endsOutsideName_of_prefix (hcs ▸ List.prefix_rfl) hend
      rw [afterLead?_append_of_some hkeyword, Option.bind_some, Option.bind_some]
      cases hblanks : dropBlanks1? afterKeyword with
      | none =>
          rw [dropBlanks1?_append_of_none hblanks hafter]
          rfl
      | some atName =>
          have hat : atName ≠ [] :=
            fun hnil => hdangling ⟨afterKeyword, atName, hkeyword, hblanks, Or.inl hnil⟩
          have hendAt : EndsOutsideName atName := by
            apply hend.of_suffix hat
            exact (suffix_of_dropBlanks1? hblanks).trans ⟨classKeyword, hcs.symm⟩
          rw [dropBlanks1?_append_of_some hblanks hat, Option.bind_some, Option.bind_some]
          cases hname : ClassName.read? atName with
          | none =>
              rw [ClassName.read?_append_of_none hname hat]
              rfl
          | some p =>
              obtain ⟨name, tail⟩ := p
              have htail : tail ≠ [] := ClassName.rest_ne_nil hname hendAt
              have hawaits : ¬ AwaitsSupertype tail := fun hawaits =>
                hdangling ⟨afterKeyword, atName, hkeyword, hblanks,
                  Or.inr ⟨name, tail, hname, htail, hawaits⟩⟩
              have hendTail := hendAt.of_suffix htail (ClassName.suffix_of_read? hname)
              rw [ClassName.read?_append_of_some hname htail, Option.bind_some, Option.bind_some,
                ofName_append hawaits name (rest_ofName_ne_nil hendTail hawaits name)]
              rfl

end Heading

end ClassDiagram
