import ClassDiagram.Proofs.BodyRange
import ClassDiagram.Proofs.BraceBalance
import ClassDiagram.Proofs.BytePosition

/-!
# Bodies inside bodies

Each body is looked for by a count of its own that starts at its declaration.  Two counts
that start in different places still agree on what is matched: the count of the outer
body passes over the inner body as the inner count does, up to the brace that closes the
inner body or, where no such brace is left, up to the end of the text.

Main results:

- Theorem `spanToClose_succ`: with one more brace open a span goes on behind the brace
  that closes it.
- Theorem `ByteRange.IsBody.around_or_behind`: a body that is opened behind another one's
  brace lies in it or behind its closing brace.
- Theorem `laminar_bodies`: the bodies of declarations are the same, one inside the other
  or apart.
-/

namespace ClassDiagram

open Text

/-! ## Spans inside spans -/

/-- With one more brace open a span is the same up to the brace that closes it, and goes
on behind that brace; a span that is closed by no brace stays as it is. -/
theorem spanToClose_succ (opened : Nat) (cs : List Char) :
    (∃ behind, cs = spanToClose 0 cs ++ '}' :: behind ∧
        spanToClose (opened + 1) cs = spanToClose 0 cs ++ '}' :: spanToClose opened behind) ∨
      cs = spanToClose 0 cs ∧ spanToClose (opened + 1) cs = spanToClose 0 cs := by
  cases hopen : openBehind 0 cs with
  | none =>
      obtain ⟨behind, hbehind⟩ := exists_close_of_openBehind hopen
      have hbalanced : Balanced (spanToClose 0 cs) :=
        balanced_iff.mpr (openBehind_spanToClose hopen)
      refine Or.inl ⟨behind, hbehind, ?_⟩
      rw [← spanToClose_close_succ, ← spanToClose_append_of_balanced hbalanced, ← hbehind]
  | some still =>
      obtain ⟨hleads, htotal⟩ := openBehind_eq_some_iff.mp hopen
      have hmore : openBehind (opened + 1) cs = some (still + (opened + 1)) := by
        rw [openBehind_eq_some_iff]
        refine ⟨fun lead hlead => ?_, by omega⟩
        have hcount := hleads lead hlead
        omega
      rw [spanToClose_eq_self hopen, spanToClose_eq_self hmore]
      exact Or.inr ⟨rfl, rfl⟩

/-- A brace inside a text opens behind the brace that closes the span, or inside the span,
which then holds what the brace opens. -/
theorem spanToClose_append_brace (gap inner : List Char) :
    (∃ between, gap = spanToClose 0 (gap ++ '{' :: inner) ++ '}' :: between) ∨
      ∃ opened, spanToClose 0 (gap ++ '{' :: inner) =
        gap ++ '{' :: spanToClose (opened + 1) inner := by
  rw [spanToClose_append]
  cases hopen : openBehind 0 gap with
  | none => exact Or.inl (exists_close_of_openBehind hopen)
  | some still => exact Or.inr ⟨still, by rw [← spanToClose_open]⟩

/-! ## Bodies at their place -/

/-- The character at a byte position, if one begins there. -/
def charAt? (buffer : List Char) (position : Nat) : Option Char :=
  (dropBytes? position buffer).bind List.head?

theorem charAt?_byteLength (before cs : List Char) :
    charAt? (before ++ cs) (byteLength before) = cs.head? := by
  rw [charAt?, dropBytes?_byteLength_append, Option.bind_some]

theorem charAt?_eq_some_iff {buffer : List Char} {position : Nat} {c : Char} :
    charAt? buffer position = some c ↔
      ∃ before rest, buffer = before ++ c :: rest ∧ byteLength before = position := by
  constructor
  · intro h
    obtain ⟨tail, hdrop, hhead⟩ := Option.bind_eq_some_iff.mp h
    obtain ⟨before, rfl, hlength⟩ := dropBytes?_eq_some_iff.mp hdrop
    obtain ⟨rest, rfl⟩ := List.head?_eq_some_iff.mp hhead
    exact ⟨before, rest, rfl, hlength⟩
  · rintro ⟨before, rest, rfl, rfl⟩
    rw [charAt?_byteLength, List.head?_cons]

/-- An opening brace stands at a position from the first one on and before the other. -/
def BraceBetween (buffer : List Char) (first behind : Nat) : Prop :=
  ∃ position < behind, first ≤ position ∧ charAt? buffer position = some '{'

instance (buffer : List Char) (first behind : Nat) : Decidable (BraceBetween buffer first behind) :=
  inferInstanceAs (Decidable (∃ position < behind, first ≤ position ∧
    charAt? buffer position = some '{'))

theorem braceBetween_iff {before gap tail : List Char} :
    BraceBetween (before ++ (gap ++ tail)) (byteLength before) (byteLength (before ++ gap)) ↔
      '{' ∈ gap := by
  have hmem : '{' ∈ gap ↔ ∃ front rest, before ++ gap = front ++ '{' :: rest ∧
      byteLength before ≤ byteLength front := mem_iff_exists_byteLength_le
  rw [hmem]
  constructor
  · rintro ⟨position, hbehind, hfirst, hchar⟩
    obtain ⟨front, rest, heq, rfl⟩ := charAt?_eq_some_iff.mp hchar
    rw [← List.append_assoc] at heq
    obtain ⟨mid, hmid, hrest⟩ := exists_append_of_byteLength_le heq.symm (Nat.le_of_lt hbehind)
    cases mid with
    | nil =>
        rw [hmid, List.append_nil] at hbehind
        exact absurd hbehind (Nat.lt_irrefl _)
    | cons c mid =>
        obtain ⟨rfl, -⟩ := List.cons.inj hrest
        exact ⟨front, mid, hmid, hfirst⟩
  · rintro ⟨front, rest, heq, hfirst⟩
    refine ⟨byteLength front, ?_, hfirst, ?_⟩
    · rw [heq, byteLength_append, byteLength_open]
      omega
    · rw [← List.append_assoc, heq, List.append_assoc, charAt?_byteLength, List.cons_append,
        List.head?_cons]

namespace ByteRange

/-- The position before the first byte, where the opening brace of a body stands. -/
def openingBrace (r : ByteRange) : Nat :=
  r.first - 1

/-- A closing brace stands behind the range. -/
def ClosedIn (r : ByteRange) (buffer : List Char) : Prop :=
  charAt? buffer r.behind = some '}'

instance (r : ByteRange) (buffer : List Char) : Decidable (r.ClosedIn buffer) :=
  inferInstanceAs (Decidable (charAt? buffer r.behind = some '}'))

/-- The range of a body with its braces; the closing one may be missing. -/
def withBraces (r : ByteRange) (buffer : List Char) : ByteRange where
  first := r.openingBrace
  behind := if r.ClosedIn buffer then r.behind + 1 else r.behind

theorem covers_refl (r : ByteRange) : r.Covers r :=
  ⟨Nat.le_refl _, Nat.le_refl _⟩

/-- What covers a body with its braces covers the body. -/
theorem Covers.of_withBraces {r q : ByteRange} {buffer : List Char}
    (h : r.Covers (q.withBraces buffer)) : r.Covers q := by
  obtain ⟨hfirst, hbehind⟩ := h
  constructor
  · exact hfirst.trans (Nat.sub_le q.first 1)
  · refine Nat.le_trans ?_ hbehind
    change q.behind ≤ if q.ClosedIn buffer then q.behind + 1 else q.behind
    split
    · exact Nat.le_succ _
    · exact Nat.le_refl _

/-- The range is that of the body that an opening brace of the text begins. -/
structure IsBody (r : ByteRange) (buffer before inner : List Char) : Prop where
  buffer_eq : buffer = before ++ '{' :: inner
  range_eq : r = .after (before ++ ['{']) (spanToClose 0 inner)

namespace IsBody

variable {r q : ByteRange} {buffer before before' inner inner' : List Char}

theorem first_eq (h : r.IsBody buffer before inner) : r.first = byteLength before + 1 := by
  rw [h.range_eq, after, byteLength_append, byteLength_open, byteLength_nil]

theorem openingBrace_eq (h : r.IsBody buffer before inner) :
    r.openingBrace = byteLength before := by
  rw [openingBrace, h.first_eq, Nat.add_sub_cancel]

theorem behind_eq (h : r.IsBody buffer before inner) :
    r.behind = byteLength before + 1 + byteLength (spanToClose 0 inner) := by
  rw [h.range_eq, after, byteLength_append, byteLength_open, byteLength_nil]

/-- Behind a body stands what its span leaves. -/
theorem charAt?_behind (h : r.IsBody buffer before inner) {behind : List Char}
    (hinner : inner = spanToClose 0 inner ++ behind) : charAt? buffer r.behind = behind.head? := by
  have hbuffer : buffer = before ++ ['{'] ++ spanToClose 0 inner ++ behind := by
    rw [h.buffer_eq, List.append_assoc _ _ behind, ← hinner, List.append_assoc,
      List.singleton_append]
  have hbehind : r.behind = byteLength (before ++ ['{'] ++ spanToClose 0 inner) := by
    rw [h.range_eq, after, ← byteLength_append]
  rw [hbuffer, hbehind, charAt?_byteLength]

/-- A body that is opened behind the brace of another one lies inside that body, with its
braces, or behind the brace that closes it. -/
theorem around_or_behind (hr : r.IsBody buffer before inner) (hq : q.IsBody buffer before' inner')
    (hlt : r.openingBrace < q.openingBrace) :
    (∃ gap opened, before' = before ++ '{' :: gap ∧
        spanToClose 0 inner = gap ++ '{' :: spanToClose (opened + 1) inner') ∨
      r.ClosedIn buffer ∧ r.behind < q.openingBrace := by
  rw [hr.openingBrace_eq, hq.openingBrace_eq] at hlt
  obtain ⟨front, rfl, hfront⟩ := exists_append_of_byteLength_le
    (hr.buffer_eq.symm.trans hq.buffer_eq) (Nat.le_of_lt hlt)
  obtain ⟨gap, rfl, rfl⟩ : ∃ gap, front = '{' :: gap ∧ inner = gap ++ '{' :: inner' := by
    cases front with
    | nil => simp at hlt
    | cons c gap =>
        obtain ⟨rfl, hinner⟩ := List.cons.inj hfront
        exact ⟨gap, rfl, hinner⟩
  rcases spanToClose_append_brace gap inner' with ⟨between, hgap⟩ | ⟨opened, hspan⟩
  · right
    constructor
    · have hclosed : gap ++ '{' :: inner' =
          spanToClose 0 (gap ++ '{' :: inner') ++ '}' :: (between ++ '{' :: inner') := by
        rw [← List.cons_append, ← List.append_assoc, ← hgap]
      exact hr.charAt?_behind hclosed
    · have hlength := congrArg byteLength hgap
      rw [byteLength_append, byteLength_close] at hlength
      rw [hr.behind_eq, hq.openingBrace_eq, byteLength_append, byteLength_open]
      omega
  · exact Or.inl ⟨gap, opened, rfl, hspan⟩

/-- A body with another one between its own brace and its end covers it with its braces. -/
theorem covers_withBraces (hr : r.IsBody buffer before inner)
    (hq : q.IsBody buffer before' inner') {gap : List Char} {opened : Nat}
    (hbefore : before' = before ++ '{' :: gap)
    (hspan : spanToClose 0 inner = gap ++ '{' :: spanToClose (opened + 1) inner') :
    r.Covers (q.withBraces buffer) := by
  have hplace : byteLength before' = byteLength before + (1 + byteLength gap) := by
    rw [hbefore, byteLength_append, byteLength_open]
  have hlength := congrArg byteLength hspan
  rw [byteLength_append, byteLength_open] at hlength
  constructor
  · change r.first ≤ q.openingBrace
    rw [hr.first_eq, hq.openingBrace_eq]
    omega
  · change (if q.ClosedIn buffer then q.behind + 1 else q.behind) ≤ r.behind
    rw [hr.behind_eq, hq.behind_eq]
    rcases spanToClose_succ opened inner' with ⟨behind, -, hmore⟩ | ⟨hall, hmore⟩
    · rw [hmore, byteLength_append, byteLength_close] at hlength
      split <;> omega
    · have hopen : ¬ q.ClosedIn buffer := by
        rw [ClosedIn, hq.charAt?_behind (hall.trans (List.append_nil _).symm)]
        simp
      rw [hmore] at hlength
      rw [if_neg hopen]
      omega

end IsBody

end ByteRange

/-! ## Bodies of declarations -/

/-- A range is found for the body that the first opening brace at or after the position
begins. -/
theorem bodyRangeFrom?_eq_some_iff {buffer : List Char} {position : Nat} {r : ByteRange} :
    bodyRangeFrom? buffer position = some r ↔
      ∃ before lead inner, byteLength before = position ∧ '{' ∉ lead ∧
        r.IsBody buffer (before ++ lead) inner := by
  constructor
  · intro h
    obtain ⟨tail, hdrop, htail⟩ := Option.bind_eq_some_iff.mp h
    obtain ⟨before, rfl, rfl⟩ := dropBytes?_eq_some_iff.mp hdrop
    obtain ⟨body, hbody, -⟩ := Option.map_eq_some_iff.mp htail
    obtain ⟨lead, inner, rfl, hlead, -⟩ := exists_of_bodyIn? hbody
    rw [bodyRangeFrom?_of_brace hlead, Option.some.injEq] at h
    exact ⟨before, lead, inner, rfl, hlead, (List.append_assoc _ _ _).symm, h.symm⟩
  · rintro ⟨before, lead, inner, rfl, hlead, hbuffer, rfl⟩
    rw [hbuffer, List.append_assoc, bodyRangeFrom?_of_brace hlead]

/-- The body found is the one at the range found. -/
theorem exists_isBody_of_bodyRangeFrom? {buffer : List Char} {position : Nat} {r : ByteRange}
    (h : bodyRangeFrom? buffer position = some r) :
    ∃ before inner, r.IsBody buffer before inner ∧
      bodyFrom? buffer position = some (spanToClose 0 inner) := by
  obtain ⟨before, lead, inner, rfl, hlead, hbody⟩ := bodyRangeFrom?_eq_some_iff.mp h
  refine ⟨before ++ lead, inner, hbody, ?_⟩
  rw [hbody.buffer_eq, List.append_assoc, bodyFrom?_byteLength, bodyIn?_of_brace hlead]

/-- The bodies found from two positions on are the same if no opening brace stands between
the positions.  Otherwise the second one lies inside the first, with its braces, or behind
the brace that closes the first. -/
theorem laminar_bodyRangeFrom? {buffer : List Char} {first second : Nat} {r q : ByteRange}
    (hr : bodyRangeFrom? buffer first = some r) (hq : bodyRangeFrom? buffer second = some q)
    (hle : first ≤ second) :
    (¬ BraceBetween buffer first second ∧ q = r ∧
        bodyFrom? buffer second = bodyFrom? buffer first) ∨
      BraceBetween buffer first second ∧
        (r.Covers (q.withBraces buffer) ∨ r.ClosedIn buffer ∧ r.behind < q.openingBrace) := by
  obtain ⟨before, lead, inner, rfl, hlead, hrbody⟩ := bodyRangeFrom?_eq_some_iff.mp hr
  obtain ⟨before', lead', inner', rfl, hlead', hqbody⟩ := bodyRangeFrom?_eq_some_iff.mp hq
  have hbuffer := hrbody.buffer_eq
  rw [List.append_assoc] at hbuffer
  obtain ⟨gap, rfl, htail⟩ := exists_append_of_byteLength_le
    (hbuffer.symm.trans (hqbody.buffer_eq.trans (List.append_assoc _ _ _))) hle
  have hbetween : BraceBetween buffer (byteLength before) (byteLength (before ++ gap)) ↔
      '{' ∈ gap := by
    rw [hbuffer, htail]
    exact braceBetween_iff
  rw [hbetween]
  by_cases hgap : '{' ∈ gap
  · refine Or.inr ⟨hgap, ?_⟩
    have hopening : r.openingBrace < q.openingBrace := by
      have hlt : byteLength lead < byteLength gap := by
        by_contra hge
        obtain ⟨mid, rfl, -⟩ := exists_append_of_byteLength_le htail.symm (Nat.le_of_not_lt hge)
        exact hlead (List.mem_append_left mid hgap)
      simp only [hrbody.openingBrace_eq, hqbody.openingBrace_eq, byteLength_append]
      omega
    rcases hrbody.around_or_behind hqbody hopening with ⟨inside, opened, hbefore, hspan⟩ | hbehind
    · exact Or.inl (hrbody.covers_withBraces hqbody hbefore hspan)
    · exact Or.inr hbehind
  · refine Or.inl ⟨hgap, ?_, ?_⟩
    · have hfirst : bodyRangeFrom? buffer (byteLength before) = some q := by
        refine bodyRangeFrom?_eq_some_iff.mpr ⟨before, gap ++ lead', inner', rfl, ?_, ?_⟩
        · rw [List.mem_append, not_or]
          exact ⟨hgap, hlead'⟩
        · rwa [← List.append_assoc]
      exact Option.some.inj (hfirst.symm.trans hr)
    · rw [hbuffer, htail, bodyFrom?_byteLength, bodyIn?_append_of_no_brace hgap,
        ← List.append_assoc, bodyFrom?_byteLength]

/-- The bodies of declarations are laminar.  If no opening brace stands between the starts
of two declarations, both have the same body.  Otherwise the later body lies inside the
earlier one, with its braces, or begins behind the brace that closes it.  No two bodies
overlap in part, whether they are closed or not. -/
theorem laminar_bodies (buffer : List Char) :
    ∀ d ∈ declarations buffer, ∀ e ∈ declarations buffer, d.start < e.start →
      ∀ r ∈ bodyRangeFrom? buffer d.start, ∀ q ∈ bodyRangeFrom? buffer e.start,
        (¬ BraceBetween buffer d.start e.start →
          q = r ∧ bodyFrom? buffer e.start = bodyFrom? buffer d.start) ∧
        (BraceBetween buffer d.start e.start →
          r.Covers (q.withBraces buffer) ∨
            r.ClosedIn buffer ∧ r.behind < (q.withBraces buffer).first) ∧
        (r.Covers q ∨ r.behind < q.first) := by
  intro d _ e _ hlt r hr q hq
  rcases laminar_bodyRangeFrom? hr hq (Nat.le_of_lt hlt) with
    ⟨hno, rfl, hsame⟩ | ⟨hbrace, hcovers | ⟨hclosed, hbehind⟩⟩
  · exact ⟨fun _ => ⟨rfl, hsame⟩, fun h => absurd h hno, Or.inl (q.covers_refl)⟩
  · exact ⟨fun h => absurd hbrace h, fun _ => Or.inl hcovers, Or.inl hcovers.of_withBraces⟩
  · have hfirst : r.behind < q.first := Nat.lt_of_lt_of_le hbehind (Nat.sub_le q.first 1)
    exact ⟨fun h => absurd hbrace h, fun _ => Or.inr ⟨hclosed, hbehind⟩, Or.inr hfirst⟩

/-- A class without an end, and two classes in it that are closed. -/
def farmText : List Char :=
  "class Farm \x7b class Hen \x7b Farm farm; \x7d class Cow \x7b Hen\x7d".toList

/-- The class without an end. -/
def farmClass : ClassName := ⟨"Farm".toList, by decide⟩

/-- The last class in it. -/
def farmCow : ClassName := ⟨"Cow".toList, by decide⟩

/-- The body that has no end holds that of the last class. -/
theorem laminar_bodies_farm :
    (⟨farmClass, none, 0⟩ : Declaration) ∈ declarations farmText ∧
      (⟨farmCow, none, 38⟩ : Declaration) ∈ declarations farmText ∧
      bodyRangeFrom? farmText 0 = some ⟨12, 54⟩ ∧ bodyRangeFrom? farmText 38 = some ⟨49, 53⟩ ∧
      BraceBetween farmText 0 38 ∧
      ((⟨12, 54⟩ : ByteRange).Covers (ByteRange.withBraces ⟨49, 53⟩ farmText) ∨
        ByteRange.ClosedIn ⟨12, 54⟩ farmText ∧
          54 < (ByteRange.withBraces ⟨49, 53⟩ farmText).first) := by
  have hfarm : (⟨farmClass, none, 0⟩ : Declaration) ∈ declarations farmText := by decide +kernel
  have hcow : (⟨farmCow, none, 38⟩ : Declaration) ∈ declarations farmText := by decide +kernel
  have houter : bodyRangeFrom? farmText 0 = some ⟨12, 54⟩ := by decide +kernel
  have hinner : bodyRangeFrom? farmText 38 = some ⟨49, 53⟩ := by decide +kernel
  have hbrace : BraceBetween farmText 0 38 := by decide +kernel
  obtain ⟨-, hnested, -⟩ :=
    laminar_bodies farmText _ hfarm _ hcow (by decide) _ houter _ hinner
  exact ⟨hfarm, hcow, houter, hinner, hbrace, hnested hbrace⟩

end ClassDiagram
