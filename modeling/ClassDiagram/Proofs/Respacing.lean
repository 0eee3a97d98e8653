import ClassDiagram.Proofs.BraceBalance
import ClassDiagram.Proofs.SiteExtension
import ClassDiagram.Proofs.WordBoundary
import Mathlib.Data.List.DropRight
import Mathlib.Data.List.Forall2

/-!
# Texts that differ only in white space

Two texts are respacings of each other if they are the same but for their white space:
wherever one has a run of it, so has the other, of whatever length and kind.  Readers
pass over white space or stop at it and never look at which one it is, so on respacings
they read the same and leave respacings behind.

Main results:

- Theorem `respaced_iff_squeeze`: respacings are the texts that become equal when each
  run of white space is written as one space.
- Theorem `Respaced.rel_readHeading?`: respacings start with the same heading or with none.
- Theorem `Respaced.forall₂_sites`: respacings declare the same, each in a respacing of the
  other's text.
- Theorem `Respaced.rel_bodyIn?`: the bodies in respacings are respacings.
-/

namespace ClassDiagram

open Text

variable {bs cs ds : List Char}

/-! ## Respacings -/

/-- A run of white space. -/
structure Gap (bs : List Char) : Prop where
  ne_nil : bs ≠ []
  blank : ∀ b ∈ bs, isBlank b = true

/-- The texts are the same but for their white space: where one has a run of it, the
other has one as well. -/
inductive Respaced : List Char → List Char → Prop
  | nil : Respaced [] []
  | keep {c : Char} {cs ds : List Char} (hc : isBlank c = false) (h : Respaced cs ds) :
      Respaced (c :: cs) (c :: ds)
  | gap {bs bs' cs ds : List Char} (hbs : Gap bs) (hbs' : Gap bs') (h : Respaced cs ds) :
      Respaced (bs ++ cs) (bs' ++ ds)

theorem dropBlanks_cons_of_blank {c : Char} (hc : isBlank c = true) (cs : List Char) :
    dropBlanks (c :: cs) = dropBlanks cs :=
  List.dropWhile_cons_of_pos hc

theorem dropBlanks_cons_of_not_blank {c : Char} (hc : isBlank c = false) (cs : List Char) :
    dropBlanks (c :: cs) = c :: cs :=
  List.dropWhile_cons_of_neg (by simp [hc])

theorem Gap.exists_cons (h : Gap bs) : ∃ b rest, bs = b :: rest ∧ isBlank b = true := by
  obtain ⟨b, rest, rfl⟩ := List.exists_cons_of_ne_nil h.ne_nil
  exact ⟨b, rest, rfl, h.blank b List.mem_cons_self⟩

/-- What a function gives for every text with white space in front, it gives for a gap
with anything behind it. -/
theorem Gap.eq_of_blank_front {α : Type} {f : List Char → α} {a : α}
    (hf : ∀ b more, isBlank b = true → f (b :: more) = a) (h : Gap bs) (cs : List Char) :
    f (bs ++ cs) = a := by
  obtain ⟨b, rest, rfl, hb⟩ := h.exists_cons
  exact hf b (rest ++ cs) hb

theorem Gap.not_mem (h : Gap bs) {c : Char} (hc : isBlank c = false) : c ∉ bs := by
  intro hmem
  rw [h.blank c hmem] at hc
  cases hc

theorem Gap.dropBlanks_append (h : Gap bs) (cs : List Char) :
    dropBlanks (bs ++ cs) = dropBlanks cs :=
  List.dropWhile_append_of_pos h.blank

theorem Gap.dropBlanks1?_append (h : Gap bs) (cs : List Char) :
    dropBlanks1? (bs ++ cs) = some (dropBlanks cs) := by
  have hdrop := h.dropBlanks_append cs
  obtain ⟨b, rest, rfl, hb⟩ := h.exists_cons
  rw [List.cons_append, dropBlanks_cons_of_blank hb] at hdrop
  rw [List.cons_append, dropBlanks1?, if_pos hb, hdrop]

theorem Gap.balanced (h : Gap bs) : Balanced bs where
  count_prefix lead hlead := by
    have hclose : '}' ∉ lead := fun hmem => h.not_mem (by decide) (hlead.mem hmem)
    rw [List.count_eq_zero_of_not_mem hclose]
    exact Nat.zero_le _
  count_eq := by
    rw [List.count_eq_zero_of_not_mem (h.not_mem (by decide)),
      List.count_eq_zero_of_not_mem (h.not_mem (by decide))]

/-! ## Squeezing white space -/

/-- The text with each run of white space written as one space. -/
def squeeze : List Char → List Char
  | [] => []
  | c :: cs => if isBlank c then ' ' :: dropBlanks (squeeze cs) else c :: squeeze cs

theorem squeeze_cons_of_not_blank {c : Char} (hc : isBlank c = false) (cs : List Char) :
    squeeze (c :: cs) = c :: squeeze cs := by
  simp [squeeze, hc]

theorem dropBlanks_squeeze (cs : List Char) :
    dropBlanks (squeeze cs) = squeeze (dropBlanks cs) := by
  induction cs with
  | nil => rfl
  | cons c cs ih =>
      cases hc : isBlank c with
      | true =>
          rw [squeeze, if_pos hc, dropBlanks_cons_of_blank (by decide),
            dropBlanks_cons_of_blank hc, ← ih]
          exact List.dropWhile_idempotent isBlank _
      | false =>
          rw [squeeze_cons_of_not_blank hc, dropBlanks_cons_of_not_blank hc,
            dropBlanks_cons_of_not_blank hc, squeeze_cons_of_not_blank hc]

theorem squeeze_cons_of_blank {c : Char} (hc : isBlank c = true) (cs : List Char) :
    squeeze (c :: cs) = ' ' :: squeeze (dropBlanks cs) := by
  rw [squeeze, if_pos hc, dropBlanks_squeeze]

theorem Gap.squeeze_append (h : Gap bs) (cs : List Char) :
    squeeze (bs ++ cs) = ' ' :: squeeze (dropBlanks cs) := by
  have hdrop := h.dropBlanks_append cs
  obtain ⟨b, rest, rfl, hb⟩ := h.exists_cons
  rw [List.cons_append, dropBlanks_cons_of_blank hb] at hdrop
  rw [List.cons_append, squeeze_cons_of_blank hb, hdrop]

/-- White space at the front of a text is a gap before what is left without it. -/
theorem exists_gap_of_blank {c : Char} (hc : isBlank c = true) (cs : List Char) :
    ∃ gap, Gap gap ∧ c :: cs = gap ++ dropBlanks cs := by
  refine ⟨c :: cs.takeWhile isBlank, ⟨by simp, ?_⟩, ?_⟩
  · intro b hb
    rcases List.mem_cons.mp hb with rfl | hb
    · exact hc
    · exact List.mem_takeWhile_imp hb
  · rw [dropBlanks, List.cons_append, List.takeWhile_append_dropWhile]

theorem squeeze_ne_nil (c : Char) (cs : List Char) : squeeze (c :: cs) ≠ [] := by
  rw [squeeze]
  split <;> simp

/-- Squeezed texts that are equal start with the same character or with white space. -/
theorem squeeze_cons_cases {c d : Char} (h : squeeze (c :: cs) = squeeze (d :: ds)) :
    isBlank c = false ∧ c = d ∧ squeeze cs = squeeze ds ∨
      isBlank c = true ∧ isBlank d = true ∧
        squeeze (dropBlanks cs) = squeeze (dropBlanks ds) := by
  cases hc : isBlank c with
  | false =>
      rw [squeeze_cons_of_not_blank hc] at h
      cases hd : isBlank d with
      | false =>
          rw [squeeze_cons_of_not_blank hd, List.cons.injEq] at h
          exact Or.inl ⟨rfl, h⟩
      | true =>
          rw [squeeze_cons_of_blank hd, List.cons.injEq] at h
          rw [h.1] at hc
          exact absurd hc (by decide)
  | true =>
      rw [squeeze_cons_of_blank hc] at h
      cases hd : isBlank d with
      | false =>
          rw [squeeze_cons_of_not_blank hd, List.cons.injEq] at h
          rw [← h.1] at hd
          exact absurd hd (by decide)
      | true =>
          rw [squeeze_cons_of_blank hd, List.cons.injEq] at h
          exact Or.inr ⟨rfl, rfl, h.2⟩

theorem respaced_of_squeeze (h : squeeze cs = squeeze ds) : Respaced cs ds := by
  induction hlen : cs.length using Nat.strong_induction_on generalizing cs ds with
  | _ n ih =>
      subst hlen
      match cs, ds with
      | [], [] => exact .nil
      | [], d :: ds => exact absurd h.symm (squeeze_ne_nil d ds)
      | c :: cs, [] => exact absurd h (squeeze_ne_nil c cs)
      | c :: cs, d :: ds =>
          rcases squeeze_cons_cases h with ⟨hc, rfl, htail⟩ | ⟨hc, hd, hbehind⟩
          · exact .keep hc (ih _ (Nat.lt_succ_self _) htail rfl)
          · obtain ⟨gap, hgap, hcs⟩ := exists_gap_of_blank hc cs
            obtain ⟨gap', hgap', hds⟩ := exists_gap_of_blank hd ds
            have hless : (dropBlanks cs).length < (c :: cs).length :=
              Nat.lt_succ_of_le (length_dropBlanks_le cs)
            rw [hcs, hds]
            exact .gap hgap hgap' (ih _ hless hbehind rfl)

/-- Respacings are the texts that become equal when each run of white space is written
as one space. -/
theorem respaced_iff_squeeze : Respaced cs ds ↔ squeeze cs = squeeze ds := by
  refine ⟨?_, respaced_of_squeeze⟩
  intro h
  induction h with
  | nil => rfl
  | keep hc h ih => rw [squeeze_cons_of_not_blank hc, squeeze_cons_of_not_blank hc, ih]
  | gap hbs hbs' h ih =>
      rw [hbs.squeeze_append, hbs'.squeeze_append, ← dropBlanks_squeeze, ← dropBlanks_squeeze, ih]

instance (cs ds : List Char) : Decidable (Respaced cs ds) :=
  decidable_of_iff _ respaced_iff_squeeze.symm

/-! ## Readers -/

/-- What is read off respacings: the same, with respacings left behind. -/
def ReadAlike {α : Type} (p q : α × List Char) : Prop :=
  p.1 = q.1 ∧ Respaced p.2 q.2

/-- Reading on from related readings gives related readings. -/
theorem rel_bind {α β γ δ : Type} {R : α → β → Prop} {S : γ → δ → Prop} {a : Option α}
    {b : Option β} {f : α → Option γ} {g : β → Option δ} (h : Option.Rel R a b)
    (hfg : ∀ x y, R x y → Option.Rel S (f x) (g y)) : Option.Rel S (a.bind f) (b.bind g) := by
  cases h with
  | some hxy => exact hfg _ _ hxy
  | none => exact .none

/-- No text with white space in front starts with a lead that has none. -/
theorem afterLead?_of_blank {lead : List Char} (hne : lead ≠ [])
    (hlead : ∀ l ∈ lead, isBlank l = false) (b : Char) (cs : List Char)
    (hb : isBlank b = true) : afterLead? lead (b :: cs) = none := by
  obtain ⟨l, ls, rfl⟩ := List.exists_cons_of_ne_nil hne
  rw [afterLead?, if_neg]
  rintro rfl
  rw [hlead l List.mem_cons_self] at hb
  cases hb

theorem isBlank_of_isNameChar {c : Char} (h : isNameChar c = true) : isBlank c = false := by
  rw [← Bool.not_eq_true]
  intro hblank
  rw [isNameChar_of_isBlank hblank] at h
  cases h

namespace Respaced

/-- Without white space in front, respacings are at their ends or go on with the same
character. -/
theorem dropBlanks_cases (h : Respaced cs ds) :
    dropBlanks cs = [] ∧ dropBlanks ds = [] ∨
      ∃ c cs' ds', isBlank c = false ∧ dropBlanks cs = c :: cs' ∧ dropBlanks ds = c :: ds' ∧
        Respaced cs' ds' := by
  induction h with
  | nil => exact Or.inl ⟨rfl, rfl⟩
  | @keep c cs ds hc h ih =>
      exact Or.inr ⟨c, cs, ds, hc, dropBlanks_cons_of_not_blank hc cs,
        dropBlanks_cons_of_not_blank hc ds, h⟩
  | gap hbs hbs' h ih => rwa [hbs.dropBlanks_append, hbs'.dropBlanks_append]

theorem respaced_dropBlanks (h : Respaced cs ds) : Respaced (dropBlanks cs) (dropBlanks ds) := by
  rcases h.dropBlanks_cases with ⟨hcs, hds⟩ | ⟨c, cs', ds', hc, hcs, hds, h'⟩
  · rw [hcs, hds]
    exact .nil
  · rw [hcs, hds]
    exact .keep hc h'

theorem rel_dropBlanks1? (h : Respaced cs ds) :
    Option.Rel Respaced (dropBlanks1? cs) (dropBlanks1? ds) := by
  cases h with
  | nil => exact .none
  | keep hc h =>
      simp only [dropBlanks1?, hc, Bool.false_eq_true, if_false]
      exact .none
  | gap hbs hbs' h =>
      rw [hbs.dropBlanks1?_append, hbs'.dropBlanks1?_append]
      exact .some h.respaced_dropBlanks

/-- Respacings start with the same leads that have no white space. -/
theorem rel_afterLead? (h : Respaced cs ds) {lead : List Char}
    (hlead : ∀ l ∈ lead, isBlank l = false) :
    Option.Rel Respaced (afterLead? lead cs) (afterLead? lead ds) := by
  induction lead generalizing cs ds with
  | nil =>
      rw [afterLead?_nil, afterLead?_nil]
      exact .some h
  | cons l ls ih =>
      cases h with
      | nil => exact .none
      | @keep c cs ds hc h =>
          by_cases heq : l = c
          · rw [afterLead?, afterLead?, if_pos heq, if_pos heq]
            exact ih h fun l' hl' => hlead l' (List.mem_cons_of_mem l hl')
          · rw [afterLead?, afterLead?, if_neg heq, if_neg heq]
            exact .none
      | gap hbs hbs' h =>
          have hnone := afterLead?_of_blank (List.cons_ne_nil l ls) hlead
          rw [hbs.eq_of_blank_front hnone, hbs'.eq_of_blank_front hnone]
          exact .none

/-- Taking characters none of which is white space takes the same from respacings. -/
theorem takeWhile_dropWhile {p : Char → Bool} (hp : ∀ b, isBlank b = true → p b = false)
    (h : Respaced cs ds) :
    cs.takeWhile p = ds.takeWhile p ∧ Respaced (cs.dropWhile p) (ds.dropWhile p) := by
  induction h with
  | nil => exact ⟨rfl, .nil⟩
  | @keep c cs ds hc h ih =>
      by_cases hpc : p c = true
      · rw [List.takeWhile_cons_of_pos hpc, List.takeWhile_cons_of_pos hpc,
          List.dropWhile_cons_of_pos hpc, List.dropWhile_cons_of_pos hpc, ih.1]
        exact ⟨rfl, ih.2⟩
      · rw [List.takeWhile_cons_of_neg hpc, List.takeWhile_cons_of_neg hpc,
          List.dropWhile_cons_of_neg hpc, List.dropWhile_cons_of_neg hpc]
        exact ⟨rfl, .keep hc h⟩
  | @gap bs bs' cs ds hbs hbs' h ih =>
      have hstop : ∀ {gap : List Char}, Gap gap → ∀ more,
          (gap ++ more).takeWhile p = [] ∧ (gap ++ more).dropWhile p = gap ++ more := by
        intro gap hgap more
        obtain ⟨b, rest, rfl, hb⟩ := hgap.exists_cons
        have hpb : ¬ p b = true := by simp [hp b hb]
        exact ⟨List.takeWhile_cons_of_neg hpb, List.dropWhile_cons_of_neg hpb⟩
      rw [(hstop hbs cs).1, (hstop hbs' ds).1, (hstop hbs cs).2, (hstop hbs' ds).2]
      exact ⟨rfl, .gap hbs hbs' h⟩

/-- Respacings start with the same name or with none. -/
theorem rel_readName? (h : Respaced cs ds) :
    Option.Rel ReadAlike (ClassName.read? cs) (ClassName.read? ds) := by
  cases h with
  | nil => exact .none
  | @keep c cs ds hc h =>
      by_cases hstart : isNameStart c = true
      · obtain ⟨htake, hdrop⟩ := h.takeWhile_dropWhile fun b => isNameChar_of_isBlank
        simp only [ClassName.read?, hstart, dif_pos, htake]
        exact .some ⟨rfl, hdrop⟩
      · simp only [ClassName.read?, dif_neg hstart]
        exact .none
  | gap hbs hbs' h =>
      have hnone : ∀ b more, isBlank b = true → ClassName.read? (b :: more) = none := by
        intro b more hb
        simp [ClassName.read?, isNameStart_of_isBlank hb]
      rw [hbs.eq_of_blank_front hnone, hbs'.eq_of_blank_front hnone]
      exact .none

/-- Behind optional white space, respacings go on with the same supertype or with none. -/
theorem rel_readSupertype? (h : Respaced cs ds) :
    Option.Rel ReadAlike (readSupertype? (dropBlanks cs)) (readSupertype? (dropBlanks ds)) := by
  rcases h.dropBlanks_cases with ⟨hcs, hds⟩ | ⟨c, cs', ds', -, hcs, hds, h'⟩
  · rw [hcs, hds]
    exact .none
  · rw [hcs, hds]
    unfold readSupertype?
    split
    next heq =>
      obtain ⟨rfl, rfl⟩ := List.cons.inj heq
      exact h'.respaced_dropBlanks.rel_readName?
    next hcolon =>
      split
      next heq =>
        obtain ⟨rfl, -⟩ := List.cons.inj heq
        exact absurd rfl (hcolon cs')
      next => exact .none

end Respaced

/-! ## Headings -/

/-- Headings with the same classes that leave respacings. -/
structure Heading.Alike (h k : Heading) : Prop where
  name : h.name = k.name
  supertype : h.supertype = k.supertype
  rest : Respaced h.rest k.rest

theorem Heading.alike_ofName (n : ClassName) (h : Respaced cs ds) :
    (ofName n cs).Alike (ofName n ds) := by
  have hsupertype := h.rel_readSupertype?
  unfold ofName
  generalize readSupertype? (dropBlanks cs) = a at hsupertype ⊢
  generalize readSupertype? (dropBlanks ds) = b at hsupertype ⊢
  cases hsupertype with
  | none => exact ⟨rfl, rfl, h.respaced_dropBlanks⟩
  | some hpq => exact ⟨rfl, congrArg some hpq.1, hpq.2⟩

/-- Respacings start with the same heading or with none. -/
theorem Respaced.rel_readHeading? (h : Respaced cs ds) :
    Option.Rel Heading.Alike (Heading.read? cs) (Heading.read? ds) := by
  have hkeyword : ∀ c ∈ classKeyword, isBlank c = false :=
    fun c hc => isBlank_of_isNameChar (Heading.isNameChar_of_mem_classKeyword hc)
  rw [Heading.read?_eq_bind, Heading.read?_eq_bind]
  refine rel_bind (h.rel_afterLead? hkeyword) fun cs₁ ds₁ h₁ => ?_
  refine rel_bind h₁.rel_dropBlanks1? fun cs₂ ds₂ h₂ => ?_
  refine rel_bind h₂.rel_readName? fun p q hpq => ?_
  rw [hpq.1]
  exact .some (Heading.alike_ofName q.1 hpq.2)

/-! ## Sites -/

/-- Sites of the same classes in texts that are respacings. -/
structure Site.Alike (x y : Site) : Prop where
  name : x.name = y.name
  supertype : x.supertype = y.supertype
  text : Respaced x.text y.text

/-- Respacings declare the same, each in a respacing of the other's text. -/
theorem Respaced.forall₂_sites (h : Respaced cs ds) :
    List.Forall₂ Site.Alike (sites cs) (sites ds) := by
  induction hlen : cs.length using Nat.strong_induction_on generalizing cs ds with
  | _ n ih =>
      subst hlen
      have hheading := h.rel_readHeading?
      cases hcs : Heading.read? cs with
      | some k =>
          cases hds : Heading.read? ds with
          | none =>
              rw [hcs, hds] at hheading
              cases hheading
          | some l =>
              rw [hcs, hds] at hheading
              cases hheading with
              | some hkl =>
                  rw [sites_of_read? hcs, sites_of_read? hds]
                  exact .cons ⟨hkl.name, hkl.supertype, h⟩
                    (ih _ (Heading.length_rest_lt_of_read? hcs) hkl.rest rfl)
      | none =>
          have hds : Heading.read? ds = none := by
            cases hds : Heading.read? ds with
            | none => rfl
            | some l =>
                rw [hcs, hds] at hheading
                cases hheading
          cases h with
          | nil =>
              rw [sites_nil]
              exact .nil
          | keep hc h =>
              rw [sites_cons_of_read? hcs, sites_cons_of_read? hds]
              exact ih _ (Nat.lt_succ_self _) h rfl
          | gap hbs hbs' h =>
              rw [sites_append_of_blank hbs.blank, sites_append_of_blank hbs'.blank]
              have hpos := List.length_pos_iff.mpr hbs.ne_nil
              exact ih _ (by rw [List.length_append]; omega) h rfl

/-! ## Bodies -/

namespace Respaced

/-- Braces are matched in respacings alike. -/
theorem respaced_spanToClose (h : Respaced cs ds) (opened : Nat) :
    Respaced (spanToClose opened cs) (spanToClose opened ds) := by
  induction h generalizing opened with
  | nil =>
      rw [spanToClose_nil]
      exact .nil
  | @keep c cs ds hc h ih =>
      by_cases hopen : c = '{'
      · subst hopen
        rw [spanToClose_open, spanToClose_open]
        exact .keep hc (ih _)
      by_cases hclose : c = '}'
      · subst hclose
        cases opened with
        | zero =>
            rw [spanToClose_close_zero, spanToClose_close_zero]
            exact .nil
        | succ opened =>
            rw [spanToClose_close_succ, spanToClose_close_succ]
            exact .keep hc (ih _)
      · rw [spanToClose_other hopen hclose, spanToClose_other hopen hclose]
        exact .keep hc (ih _)
  | gap hbs hbs' h ih =>
      rw [spanToClose_append_of_balanced hbs.balanced, spanToClose_append_of_balanced hbs'.balanced]
      exact .gap hbs hbs' (ih _)

/-- The bodies in respacings are respacings. -/
theorem rel_bodyIn? (h : Respaced cs ds) : Option.Rel Respaced (bodyIn? cs) (bodyIn? ds) := by
  induction h with
  | nil => exact .none
  | @keep c cs ds hc h ih =>
      by_cases hopen : c = '{'
      · subst hopen
        exact .some (h.respaced_spanToClose 0)
      · have hlead : '{' ∉ [c] := fun hmem => hopen (List.mem_singleton.mp hmem).symm
        have hskip : ∀ more, bodyIn? (c :: more) = bodyIn? more :=
          bodyIn?_append_of_no_brace hlead
        rwa [hskip, hskip]
  | gap hbs hbs' h ih =>
      rwa [bodyIn?_append_of_no_brace (hbs.not_mem (by decide)),
        bodyIn?_append_of_no_brace (hbs'.not_mem (by decide))]

end Respaced

end ClassDiagram
