import ClassDiagram.Proofs.ClassView

/-!
# Where recorded bodies stand

Findings hold a body as text.  Where in the scanned text it stands is told by the
first declaration of its class: the body begins behind the first opening brace at or
after that declaration.  Positions are counted in bytes, like those of declarations.

Main results:

- Theorem `bodyRangeFrom?_of_brace`: the body behind an opening brace stands there.
- Theorems `recordedRange?_eq_none_iff` and `exists_of_recordedRange?`: a class has a
  range exactly if it has a recorded body, and that body is what stands there.
-/

namespace ClassDiagram

open Text

/-! ## Ranges of bytes -/

/-- A range of byte positions in a text. -/
structure ByteRange where
  /-- The position of its first byte. -/
  first : Nat
  /-- The position behind its last byte. -/
  behind : Nat
deriving DecidableEq

namespace ByteRange

/-- The range of a part of a text that stands behind the given text. -/
def after (before part : List Char) : ByteRange where
  first := byteLength before
  behind := byteLength before + byteLength part

/-- The range holds all of another one. -/
def Covers (r q : ByteRange) : Prop :=
  r.first ≤ q.first ∧ q.behind ≤ r.behind

instance (r q : ByteRange) : Decidable (r.Covers q) :=
  inferInstanceAs (Decidable (r.first ≤ q.first ∧ q.behind ≤ r.behind))

/-- A part of a text covers every part of it. -/
theorem covers_after (before lead part rest : List Char) :
    (after before (lead ++ part ++ rest)).Covers (after (before ++ lead) part) := by
  simp only [Covers, after, byteLength_append]
  omega

end ByteRange

/-! ## Ranges of bodies -/

/-- Where the first body stands that begins at or after a byte position. -/
def bodyRangeFrom? (buffer : List Char) (position : Nat) : Option ByteRange :=
  (dropBytes? position buffer).bind fun tail =>
    (bodyIn? tail).map fun body =>
      let first := position + byteLength (tail.takeWhile (· != '{')) + 1
      ⟨first, first + byteLength body⟩

/-- Where the body stands that a scan of the text records for a class: behind the first
declaration of the class. -/
def recordedRange? (buffer : List Char) (name : ClassName) : Option ByteRange :=
  ((declarations buffer).find? fun d => d.name = name).bind fun d =>
    bodyRangeFrom? buffer d.start

theorem takeWhile_of_brace {lead : List Char} (hlead : '{' ∉ lead) (inner : List Char) :
    (lead ++ '{' :: inner).takeWhile (· != '{') = lead := by
  rw [List.takeWhile_append_of_pos]
  · simp
  · intro c hc
    have hne : c ≠ '{' := fun heq => hlead (heq ▸ hc)
    simpa using hne

/-- The body behind an opening brace stands there. -/
theorem bodyRangeFrom?_of_brace {lead : List Char} (hlead : '{' ∉ lead)
    (before inner : List Char) :
    bodyRangeFrom? (before ++ (lead ++ '{' :: inner)) (byteLength before) =
      some (.after (before ++ lead ++ ['{']) (spanToClose 0 inner)) := by
  have hbrace : byteLength ['{'] = 1 := by decide
  rw [bodyRangeFrom?, dropBytes?_byteLength_append, Option.bind_some, bodyIn?_of_brace hlead,
    Option.map_some, takeWhile_of_brace hlead]
  simp only [ByteRange.after, byteLength_append, hbrace]

/-- Behind a position there is a body exactly if there is a range of one. -/
theorem isSome_bodyRangeFrom? (buffer : List Char) (position : Nat) :
    (bodyRangeFrom? buffer position).isSome = (bodyFrom? buffer position).isSome := by
  rw [bodyRangeFrom?, bodyFrom?]
  cases dropBytes? position buffer with
  | none => rfl
  | some tail => rw [Option.bind_some, Option.bind_some, Option.isSome_map]

/-! ## Ranges of recorded bodies -/

/-- The range of a recorded body is that of the body at the first site of its class. -/
theorem recordedRange?_eq_bind (buffer : List Char) (name : ClassName) :
    recordedRange? buffer name =
      ((sites buffer).find? fun x => x.name = name).bind fun x =>
        bodyRangeFrom? buffer (x.declarationIn buffer).start := by
  rw [recordedRange?, declarations_eq_map_sites, List.find?_map]
  change (((sites buffer).find? fun x => x.name = name).map _).bind _ = _
  rw [Option.bind_map]
  rfl

/-- A class has a range exactly if it has a recorded body. -/
theorem recordedRange?_eq_none_iff {buffer : List Char} {name : ClassName} :
    recordedRange? buffer name = none ↔ (scan buffer).body? name = none := by
  rw [recordedRange?_eq_bind, body?_scan]
  cases hfind : (sites buffer).find? fun x => x.name = name with
  | none => simp
  | some x =>
      have hx := suffix_of_mem_sites (List.mem_of_find?_eq_some hfind)
      rw [Option.bind_some, Option.bind_some, ← Option.not_isSome_iff_eq_none,
        ← Option.not_isSome_iff_eq_none, isSome_bodyRangeFrom?, Site.bodyFrom?_start hx]

/-- What stands at the range of a class is its recorded body, behind an opening brace. -/
theorem exists_of_recordedRange? {buffer : List Char} {name : ClassName} {range : ByteRange}
    (h : recordedRange? buffer name = some range) :
    ∃ before body behind, buffer = before ++ '{' :: (body ++ behind) ∧
      (scan buffer).body? name = some body ∧ range = .after (before ++ ['{']) body := by
  rw [recordedRange?_eq_bind] at h
  obtain ⟨x, hfind, hrange⟩ := Option.bind_eq_some_iff.mp h
  obtain ⟨before, hbuffer⟩ := suffix_of_mem_sites (List.mem_of_find?_eq_some hfind)
  subst hbuffer
  rw [Site.start_declarationIn] at hrange
  have hsome : x.body?.isSome = true := by
    have hfrom := isSome_bodyRangeFrom? (before ++ x.text) (byteLength before)
    rwa [hrange, bodyFrom?_byteLength, Option.isSome_some, eq_comm] at hfrom
  obtain ⟨body, hbody⟩ := Option.isSome_iff_exists.mp hsome
  obtain ⟨lead, inner, htext, hlead, rfl⟩ := exists_of_bodyIn? hbody
  obtain ⟨behind, hbehind⟩ := spanToClose_prefix 0 inner
  rw [htext, bodyRangeFrom?_of_brace hlead, Option.some.injEq] at hrange
  refine ⟨before ++ lead, spanToClose 0 inner, behind, ?_, ?_, hrange.symm⟩
  · rw [htext, hbehind, List.append_assoc]
  · rw [body?_scan, hfind, Option.bind_some, hbody]

end ClassDiagram
