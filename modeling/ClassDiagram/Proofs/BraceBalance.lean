import ClassDiagram.Proofs.BodySpan
import Mathlib.Data.List.Infix

/-!
# Balanced braces

How many braces a text leaves open is told by its totals, as long as none of its
prefixes closes more than is open.  A balanced text therefore leaves open exactly what
was open before it, and a span runs through it as if it held no braces.

Main results:

- Theorem `openBehind_eq_some_iff`: the braces open behind a text, by counting.
- Theorem `balanced_iff`: a text is balanced exactly if it leaves no brace open and
  closes none that it does not open.
- Theorem `spanToClose_append_of_balanced`: a span runs through a balanced text.
- Theorem `spanToClose_eq_iff`: a span is the balanced text before a closing brace, or all
  of a text that closes no more than it opens.
-/

namespace ClassDiagram

open Text

/-! ## Sizes of braces -/

theorem byteLength_open (cs : List Char) : byteLength ('{' :: cs) = 1 + byteLength cs := by
  have hsize : '{'.utf8Size = 1 := by decide
  rw [byteLength_cons, hsize]

theorem byteLength_close (cs : List Char) : byteLength ('}' :: cs) = 1 + byteLength cs := by
  have hsize : '}'.utf8Size = 1 := by decide
  rw [byteLength_cons, hsize]

/-! ## Counting braces in prefixes -/

theorem forall_prefix_cons_iff {α : Type} {P : List α → Prop} {a : α} {l : List α} :
    (∀ lead, lead <+: a :: l → P lead) ↔ P [] ∧ ∀ lead, lead <+: l → P (a :: lead) := by
  constructor
  · intro h
    exact ⟨h [] List.nil_prefix, fun lead hlead => h _ ((List.prefix_cons_inj a).mpr hlead)⟩
  · rintro ⟨hnil, hcons⟩ lead hlead
    rcases List.prefix_cons_iff.mp hlead with rfl | ⟨tail, rfl, htail⟩
    · exact hnil
    · exact hcons tail htail

/-- The braces that are open behind a text: the brace that closes the text is not in it
exactly if no prefix closes more braces than are open, and then the totals tell how many
are still open. -/
theorem openBehind_eq_some_iff {opened still : Nat} {cs : List Char} :
    openBehind opened cs = some still ↔
      (∀ lead, lead <+: cs → lead.count '}' ≤ opened + lead.count '{') ∧
        still + cs.count '}' = opened + cs.count '{' := by
  induction opened, cs using brace_induction with
  | nil opened =>
      simp only [openBehind_nil, List.prefix_nil, forall_eq, List.count_nil, Option.some.injEq]
      omega
  | opens opened cs ih =>
      have hopen : ∀ lead : List Char, ('{' :: lead).count '{' = lead.count '{' + 1 :=
        fun lead => List.count_cons_self
      have hclose : ∀ lead : List Char, ('{' :: lead).count '}' = lead.count '}' :=
        fun lead => List.count_cons_of_ne (by decide)
      rw [openBehind_open, ih, forall_prefix_cons_iff]
      simp only [hopen, hclose, List.count_nil, Nat.zero_le, true_and]
      exact and_congr (forall₂_congr fun lead _ => by omega) (by omega)
  | closes_text cs =>
      have hleads : ['}'] <+: '}' :: cs := (List.prefix_cons_inj '}').mpr List.nil_prefix
      simp only [openBehind_close_zero, reduceCtorEq, false_iff]
      rintro ⟨hlead, -⟩
      exact absurd (hlead _ hleads) (by decide)
  | closes opened cs ih =>
      have hopen : ∀ lead : List Char, ('}' :: lead).count '{' = lead.count '{' :=
        fun lead => List.count_cons_of_ne (by decide)
      have hclose : ∀ lead : List Char, ('}' :: lead).count '}' = lead.count '}' + 1 :=
        fun lead => List.count_cons_self
      rw [openBehind_close_succ, ih, forall_prefix_cons_iff]
      simp only [hopen, hclose, List.count_nil, Nat.zero_le, true_and]
      exact and_congr (forall₂_congr fun lead _ => by omega) (by omega)
  | other opened c cs hopen hclose ih =>
      rw [openBehind_other hopen hclose, ih, forall_prefix_cons_iff]
      simp only [List.count_cons_of_ne hopen, List.count_cons_of_ne hclose, List.count_nil,
        Nat.zero_le, true_and]

/-! ## Balanced texts -/

/-- Every brace that the text opens is closed in it, and the other way round: no prefix
closes more braces than it opens, and the totals are equal. -/
structure Balanced (cs : List Char) : Prop where
  count_prefix : ∀ lead, lead <+: cs → lead.count '}' ≤ lead.count '{'
  count_eq : cs.count '{' = cs.count '}'

theorem balanced_iff {cs : List Char} : Balanced cs ↔ openBehind 0 cs = some 0 := by
  rw [openBehind_eq_some_iff]
  simp only [Nat.zero_add]
  constructor
  · intro h
    exact ⟨h.count_prefix, h.count_eq.symm⟩
  · rintro ⟨hleads, heq⟩
    exact ⟨hleads, heq.symm⟩

instance (cs : List Char) : Decidable (Balanced cs) :=
  decidable_of_iff _ balanced_iff.symm

/-- Behind a balanced text as many braces are open as before it. -/
theorem Balanced.openBehind_eq {cs : List Char} (h : Balanced cs) (opened : Nat) :
    openBehind opened cs = some opened := by
  rw [openBehind_eq_some_iff]
  constructor
  · intro lead hlead
    have hcount := h.count_prefix lead hlead
    omega
  · rw [h.count_eq]

/-- A span runs through a balanced text. -/
theorem spanToClose_append_of_balanced {cs : List Char} (h : Balanced cs) (opened : Nat)
    (more : List Char) : spanToClose opened (cs ++ more) = cs ++ spanToClose opened more := by
  rw [spanToClose_append, h.openBehind_eq]

/-! ## Spans by counting -/

/-- Behind the span of a text that has the brace that closes it, only that brace is
still open. -/
theorem openBehind_spanToClose {opened : Nat} {cs : List Char}
    (h : openBehind opened cs = none) : openBehind opened (spanToClose opened cs) = some 0 := by
  induction opened, cs using brace_induction with
  | nil opened => cases h
  | opens opened cs ih => rw [spanToClose_open, openBehind_open, ih h]
  | closes_text cs => rfl
  | closes opened cs ih => rw [spanToClose_close_succ, openBehind_close_succ, ih h]
  | other opened c cs hopen hclose ih =>
      rw [openBehind_other hopen hclose] at h
      rw [spanToClose_other hopen hclose, openBehind_other hopen hclose, ih h]

/-- A span is the balanced text before a closing brace, or all of a text in which no
prefix closes more than it opens. -/
theorem spanToClose_eq_iff {cs body : List Char} :
    spanToClose 0 cs = body ↔
      (∃ behind, cs = body ++ '}' :: behind ∧ Balanced body) ∨
        cs = body ∧ ∀ lead, lead <+: body → lead.count '}' ≤ lead.count '{' := by
  constructor
  · rintro rfl
    cases hopen : openBehind 0 cs with
    | none =>
        obtain ⟨behind, hbehind⟩ := exists_close_of_openBehind hopen
        exact Or.inl ⟨behind, hbehind, balanced_iff.mpr (openBehind_spanToClose hopen)⟩
    | some still =>
        rw [spanToClose_eq_self hopen]
        have hleads := (openBehind_eq_some_iff.mp hopen).1
        simp only [Nat.zero_add] at hleads
        exact Or.inr ⟨rfl, hleads⟩
  · rintro (⟨behind, rfl, hbalanced⟩ | ⟨rfl, hleads⟩)
    · rw [spanToClose_append_of_balanced hbalanced, spanToClose_close_zero, List.append_nil]
    · have htotal := hleads cs List.prefix_rfl
      have hopen : openBehind 0 cs = some (cs.count '{' - cs.count '}') := by
        rw [openBehind_eq_some_iff]
        simp only [Nat.zero_add]
        exact ⟨hleads, Nat.sub_add_cancel htotal⟩
      exact spanToClose_eq_self hopen

end ClassDiagram
