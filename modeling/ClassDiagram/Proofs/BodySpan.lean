import ClassDiagram.Scan.Body
import Mathlib.Data.List.TakeWhile

/-!
# Bodies in longer texts

A body is found by counting braces from left to right.  What follows a text can
therefore do one thing to the body found in it: lengthen a body that the text
leaves open.  A body that ends at a closing brace stays as it is.

Main results:

- Theorem `brace_induction`: induction by the cases of counting braces.
- Theorem `spanToClose_append`: how a span goes on behind a text.
- Theorem `bodyIn?_eq_none_iff`: a text has no body exactly if it has no opening
  brace.
- Theorem `bodyIn?_append`: a body stays or, where it ran to the end of the text,
  grows.
- Theorem `bodyIn?_append_of_closes`: a body that closes in a text is the body
  of every longer text.
-/

namespace ClassDiagram

open Text

/-! ## Counting braces -/

/-- Induction over a text and the number of braces that are open before it, by cases on
what counting braces meets first. -/
@[elab_as_elim]
theorem brace_induction {motive : Nat → List Char → Prop}
    (nil : ∀ opened, motive opened [])
    (opens : ∀ opened cs, motive (opened + 1) cs → motive opened ('{' :: cs))
    (closes_text : ∀ cs, motive 0 ('}' :: cs))
    (closes : ∀ opened cs, motive opened cs → motive (opened + 1) ('}' :: cs))
    (other : ∀ opened c cs, c ≠ '{' → c ≠ '}' → motive opened cs → motive opened (c :: cs))
    (opened : Nat) (cs : List Char) : motive opened cs := by
  induction cs generalizing opened with
  | nil => exact nil opened
  | cons c cs ih =>
      by_cases hopen : c = '{'
      · subst hopen
        exact opens opened cs (ih (opened + 1))
      by_cases hclose : c = '}'
      · subst hclose
        cases opened with
        | zero => exact closes_text cs
        | succ opened => exact closes opened cs (ih opened)
      · exact other opened c cs hopen hclose (ih opened)

theorem spanToClose_open (opened : Nat) (cs : List Char) :
    spanToClose opened ('{' :: cs) = '{' :: spanToClose (opened + 1) cs := rfl

theorem spanToClose_close_zero (cs : List Char) : spanToClose 0 ('}' :: cs) = [] := rfl

theorem spanToClose_close_succ (opened : Nat) (cs : List Char) :
    spanToClose (opened + 1) ('}' :: cs) = '}' :: spanToClose opened cs := rfl

theorem spanToClose_other {c : Char} (hopen : c ≠ '{') (hclose : c ≠ '}') (opened : Nat)
    (cs : List Char) : spanToClose opened (c :: cs) = c :: spanToClose opened cs := by
  rw [spanToClose]
  all_goals simp_all

/-- The number of braces that are open behind a text, if the brace that closes
the text is not in it. -/
def openBehind : Nat → List Char → Option Nat
  | opened, [] => some opened
  | opened, '{' :: cs => openBehind (opened + 1) cs
  | 0, '}' :: _ => none
  | opened + 1, '}' :: cs => openBehind opened cs
  | opened, _ :: cs => openBehind opened cs

theorem openBehind_nil (opened : Nat) : openBehind opened [] = some opened := rfl

theorem openBehind_open (opened : Nat) (cs : List Char) :
    openBehind opened ('{' :: cs) = openBehind (opened + 1) cs := rfl

theorem openBehind_close_zero (cs : List Char) : openBehind 0 ('}' :: cs) = none := rfl

theorem openBehind_close_succ (opened : Nat) (cs : List Char) :
    openBehind (opened + 1) ('}' :: cs) = openBehind opened cs := rfl

theorem openBehind_other {c : Char} (hopen : c ≠ '{') (hclose : c ≠ '}') (opened : Nat)
    (cs : List Char) : openBehind opened (c :: cs) = openBehind opened cs := by
  rw [openBehind]
  all_goals simp_all

/-- A span goes on behind a text with the braces that the text leaves open. -/
theorem spanToClose_append (opened : Nat) (cs more : List Char) :
    spanToClose opened (cs ++ more) =
      match openBehind opened cs with
      | some still => cs ++ spanToClose still more
      | none => spanToClose opened cs := by
  induction opened, cs using brace_induction with
  | nil opened => rfl
  | opens opened cs ih =>
      rw [List.cons_append, spanToClose_open, spanToClose_open, openBehind_open, ih]
      split <;> rfl
  | closes_text cs => rfl
  | closes opened cs ih =>
      rw [List.cons_append, spanToClose_close_succ, spanToClose_close_succ,
        openBehind_close_succ, ih]
      split <;> rfl
  | other opened c cs hopen hclose ih =>
      rw [List.cons_append, spanToClose_other hopen hclose, spanToClose_other hopen hclose,
        openBehind_other hopen hclose, ih]
      split <;> rfl

/-- A text in which no brace closes it is its own span. -/
theorem spanToClose_eq_self {opened still : Nat} {cs : List Char}
    (h : openBehind opened cs = some still) : spanToClose opened cs = cs := by
  have happ := spanToClose_append opened cs []
  simpa [h] using happ

/-- A text with the brace that closes it goes on with that brace behind its span. -/
theorem exists_close_of_openBehind {opened : Nat} {cs : List Char}
    (h : openBehind opened cs = none) : ∃ rest, cs = spanToClose opened cs ++ '}' :: rest := by
  induction opened, cs using brace_induction with
  | nil opened => cases h
  | opens opened cs ih =>
      obtain ⟨rest, hrest⟩ := ih h
      exact ⟨rest, by rw [spanToClose_open, List.cons_append, ← hrest]⟩
  | closes_text cs => exact ⟨cs, by rw [spanToClose_close_zero, List.nil_append]⟩
  | closes opened cs ih =>
      obtain ⟨rest, hrest⟩ := ih h
      exact ⟨rest, by rw [spanToClose_close_succ, List.cons_append, ← hrest]⟩
  | other opened c cs hopen hclose ih =>
      rw [openBehind_other hopen hclose] at h
      obtain ⟨rest, hrest⟩ := ih h
      exact ⟨rest, by rw [spanToClose_other hopen hclose, List.cons_append, ← hrest]⟩

/-! ## The first body in a text -/

/-- Skipping to the first opening brace skips the text before it. -/
theorem dropWhile_of_brace {lead : List Char} (hlead : '{' ∉ lead) (inner : List Char) :
    (lead ++ '{' :: inner).dropWhile (· != '{') = '{' :: inner := by
  rw [List.dropWhile_append_of_pos]
  · simp
  · intro c hc
    have hne : c ≠ '{' := fun heq => hlead (heq ▸ hc)
    simpa using hne

theorem dropWhile_of_no_brace {cs : List Char} (h : '{' ∉ cs) :
    cs.dropWhile (· != '{') = [] := by
  rw [List.dropWhile_eq_nil_iff]
  intro c hc
  have hne : c ≠ '{' := fun heq => h (heq ▸ hc)
  simpa using hne

/-- The first opening brace of a text begins its body. -/
theorem bodyIn?_of_brace {lead : List Char} (hlead : '{' ∉ lead) (inner : List Char) :
    bodyIn? (lead ++ '{' :: inner) = some (spanToClose 0 inner) := by
  rw [bodyIn?, dropWhile_of_brace hlead]

/-- Text without an opening brace plays no part in the body behind it. -/
theorem bodyIn?_append_of_no_brace {lead : List Char} (hlead : '{' ∉ lead) (cs : List Char) :
    bodyIn? (lead ++ cs) = bodyIn? cs := by
  rw [bodyIn?, bodyIn?, List.dropWhile_append_of_pos]
  intro c hc
  have hne : c ≠ '{' := fun heq => hlead (heq ▸ hc)
  simpa using hne

/-- A text has no body exactly if it has no opening brace. -/
theorem bodyIn?_eq_none_iff {cs : List Char} : bodyIn? cs = none ↔ '{' ∉ cs := by
  constructor
  · intro hnone hmem
    obtain ⟨lead, inner, rfl, hlead⟩ := List.eq_append_cons_of_mem hmem
    rw [bodyIn?_of_brace hlead] at hnone
    cases hnone
  · intro hmem
    rw [bodyIn?, dropWhile_of_no_brace hmem]

/-- A body begins behind the first opening brace of its text. -/
theorem exists_of_bodyIn? {cs body : List Char} (h : bodyIn? cs = some body) :
    ∃ lead inner, cs = lead ++ '{' :: inner ∧ '{' ∉ lead ∧ body = spanToClose 0 inner := by
  have hmem : '{' ∈ cs := by
    by_contra hnot
    rw [bodyIn?_eq_none_iff.mpr hnot] at h
    cases h
  obtain ⟨lead, inner, rfl, hlead⟩ := List.eq_append_cons_of_mem hmem
  rw [bodyIn?_of_brace hlead] at h
  exact ⟨lead, inner, rfl, hlead, (Option.some.inj h).symm⟩

/-- The body found from the end of a part of the text on is the first one behind it. -/
theorem bodyFrom?_byteLength (lead cs : List Char) :
    bodyFrom? (lead ++ cs) (byteLength lead) = bodyIn? cs := by
  rw [bodyFrom?, dropBytes?_byteLength_append, Option.bind_some]

/-- A character is in the rest of a text exactly if it stands at or after the byte
position where the rest starts. -/
theorem mem_iff_exists_byteLength_le {lead cs : List Char} {c : Char} :
    c ∈ cs ↔
      ∃ before behind, lead ++ cs = before ++ c :: behind ∧
        byteLength lead ≤ byteLength before := by
  constructor
  · intro hmem
    obtain ⟨before, behind, rfl⟩ := List.append_of_mem hmem
    exact ⟨lead ++ before, behind, by rw [List.append_assoc], by simp⟩
  · rintro ⟨before, behind, heq, hle⟩
    rcases List.append_eq_append_iff.mp heq with ⟨gap, -, rfl⟩ | ⟨gap, rfl, hgap⟩
    · simp
    · cases gap with
      | nil => simp [← show c :: behind = cs from hgap]
      | cons d gap =>
          have hpos := d.utf8Size_pos
          simp only [byteLength_append, byteLength_cons] at hle
          omega

/-- A text goes on to have the body it has, unless that ran to its end: then what
follows may lengthen it. -/
theorem bodyIn?_append {cs body : List Char} (h : bodyIn? cs = some body) (more : List Char) :
    bodyIn? (cs ++ more) = some body ∨
      ∃ lead further, cs = lead ++ '{' :: body ∧
        bodyIn? (cs ++ more) = some (body ++ further) := by
  obtain ⟨lead, inner, rfl, hlead, rfl⟩ := exists_of_bodyIn? h
  rw [List.append_assoc, List.cons_append, bodyIn?_of_brace hlead, spanToClose_append]
  cases hopen : openBehind 0 inner with
  | none => exact Or.inl rfl
  | some still =>
      have hself := spanToClose_eq_self hopen
      exact Or.inr ⟨lead, spanToClose still more, by rw [hself], by rw [hself]⟩

/-- The first body in a text ends at a closing brace of the text. -/
def BodyCloses (cs : List Char) : Prop :=
  ∃ lead body rest, cs = lead ++ '{' :: (body ++ '}' :: rest) ∧ '{' ∉ lead ∧
    bodyIn? cs = some body

/-- A body closes exactly if counting braces behind the first one comes to an end. -/
theorem bodyCloses_iff {cs : List Char} :
    BodyCloses cs ↔
      ∃ lead inner, cs = lead ++ '{' :: inner ∧ '{' ∉ lead ∧ openBehind 0 inner = none := by
  constructor
  · rintro ⟨lead, body, rest, rfl, hlead, hbody⟩
    refine ⟨lead, body ++ '}' :: rest, rfl, hlead, ?_⟩
    rw [bodyIn?_of_brace hlead, Option.some.injEq] at hbody
    cases hopen : openBehind 0 (body ++ '}' :: rest) with
    | none => rfl
    | some still =>
        rw [spanToClose_eq_self hopen] at hbody
        simp at hbody
  · rintro ⟨lead, inner, rfl, hlead, hopen⟩
    obtain ⟨rest, hrest⟩ := exists_close_of_openBehind hopen
    exact ⟨lead, spanToClose 0 inner, rest, by rw [← hrest], hlead, bodyIn?_of_brace hlead inner⟩

instance (cs : List Char) : Decidable (BodyCloses cs) :=
  decidable_of_iff
    ((cs.dropWhile (· != '{')).tail?.any (fun inner => openBehind 0 inner == none) = true) <| by
    rw [bodyCloses_iff]
    constructor
    · intro hany
      have hmem : '{' ∈ cs := by
        by_contra hnot
        rw [dropWhile_of_no_brace hnot] at hany
        cases hany
      obtain ⟨lead, inner, rfl, hlead⟩ := List.eq_append_cons_of_mem hmem
      rw [dropWhile_of_brace hlead] at hany
      exact ⟨lead, inner, rfl, hlead, by simpa using hany⟩
    · rintro ⟨lead, inner, rfl, hlead, hopen⟩
      rw [dropWhile_of_brace hlead]
      simp [hopen]

/-- A body that closes in a text is the body of every longer text. -/
theorem bodyIn?_append_of_closes {cs : List Char} (h : BodyCloses cs) (more : List Char) :
    bodyIn? (cs ++ more) = bodyIn? cs := by
  obtain ⟨lead, inner, rfl, hlead, hopen⟩ := bodyCloses_iff.mp h
  rw [List.append_assoc, List.cons_append, bodyIn?_of_brace hlead, bodyIn?_of_brace hlead,
    spanToClose_append, hopen]

end ClassDiagram
