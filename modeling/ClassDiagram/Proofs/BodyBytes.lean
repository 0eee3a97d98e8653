import ClassDiagram.Proofs.BraceBalance
import ClassDiagram.Proofs.BytePosition

/-!
# Bodies found on bytes

A body can be looked for on the bytes of a text: cut at the position, look for the byte
of an opening brace, count brace bytes behind it and cut again where the count returns
to zero.  A cut on bytes can fail, and so can counting down.  On the bytes of a text
neither does, because the bytes of braces are no part of any other character, so that
they are counted exactly where the text has braces and the cuts are made beside them.

Main results:

- Theorem `closingOffset_utf8Bytes`: counting brace bytes ends where counting braces
  ends.
- Theorem `bodyBytes_utf8Bytes`: on bytes the same body is found, and nothing fails.
- Theorem `bodyFrom?_characterized`: which body is found, by what stands in the text.
-/

namespace ClassDiagram

open Text

/-! ## Looking for a body on bytes -/

/-- The byte of an opening brace. -/
def openByte : UInt8 := 0x7b

/-- The byte of a closing brace. -/
def closeByte : UInt8 := 0x7d

/-- What can go wrong on bytes. -/
inductive ByteFault
  /-- A cut past the end, the wrong way round or inside a character. -/
  | badCut
  /-- A closing brace is counted where no brace is open. -/
  | nothingOpen
deriving DecidableEq, Repr

/-- The bytes from a position on. -/
def bytesFrom (bytes : List UInt8) (first : Nat) : Except ByteFault (List UInt8) :=
  if first ≤ bytes.length then .ok (bytes.drop first) else .error .badCut

/-- The text that stands between two positions of its bytes. -/
def textBetween (bytes : List UInt8) (first behind : Nat) : Except ByteFault (List UInt8) :=
  if first ≤ behind ∧ isBoundary bytes first ∧ isBoundary bytes behind then
    .ok ((bytes.drop first).take (behind - first))
  else .error .badCut

/-- The offset of the byte that closes the last open brace, with the number of braces
that are open and the offset of the first byte; there may be no such byte. -/
def closingOffset (depth offset : Nat) : List UInt8 → Except ByteFault (Option Nat)
  | [] => .ok none
  | b :: bytes =>
    if b = openByte then closingOffset (depth + 1) (offset + 1) bytes
    else if b = closeByte then
      match depth with
      | 0 => .error .nothingOpen
      | 1 => .ok (some offset)
      | depth + 2 => closingOffset (depth + 1) (offset + 1) bytes
    else closingOffset depth (offset + 1) bytes

/-- The text from a position to the byte that closes it, or to the end. -/
def spanBytes (bytes : List UInt8) (first : Nat) : Except ByteFault (List UInt8) := do
  match ← closingOffset 1 0 (← bytesFrom bytes first) with
  | some offset => textBetween bytes first (first + offset)
  | none => textBetween bytes first bytes.length

/-- The body that begins at or after a position. -/
def bodyBytes (bytes : List UInt8) (position : Nat) : Except ByteFault (Option (List UInt8)) :=
  match textBetween bytes position bytes.length with
  | .error _ => .ok none
  | .ok tail =>
    match tail.findIdx? (· == openByte) with
    | none => .ok none
    | some skipped => some <$> spanBytes bytes (position + skipped + 1)

/-! ## Bytes of braces -/

theorem openByte_mem_iff {c : Char} : openByte ∈ String.utf8EncodeChar c ↔ c = '{' := by
  rw [ascii_mem_utf8EncodeChar_iff (by decide), ← Char.toNat_inj]
  rfl

theorem closeByte_mem_iff {c : Char} : closeByte ∈ String.utf8EncodeChar c ↔ c = '}' := by
  rw [ascii_mem_utf8EncodeChar_iff (by decide), ← Char.toNat_inj]
  rfl

/-- An opening brace is in a text exactly if its byte is in the bytes. -/
theorem openByte_mem_utf8Bytes_iff {cs : List Char} : openByte ∈ utf8Bytes cs ↔ '{' ∈ cs := by
  simp only [utf8Bytes, List.mem_flatMap, openByte_mem_iff, exists_eq_right]

theorem closingOffset_open (depth offset : Nat) (bytes : List UInt8) :
    closingOffset depth offset (openByte :: bytes) =
      closingOffset (depth + 1) (offset + 1) bytes := by
  rw [closingOffset.eq_def]
  exact if_pos rfl

theorem closingOffset_close (depth offset : Nat) (bytes : List UInt8) :
    closingOffset (depth + 2) offset (closeByte :: bytes) =
      closingOffset (depth + 1) (offset + 1) bytes := by
  rw [closingOffset.eq_def]
  exact if_neg (by decide)

theorem closingOffset_other {b : UInt8} (hopen : b ≠ openByte) (hclose : b ≠ closeByte)
    (depth offset : Nat) (bytes : List UInt8) :
    closingOffset depth offset (b :: bytes) = closingOffset depth (offset + 1) bytes := by
  rw [closingOffset.eq_def]
  simp only [if_neg hopen, if_neg hclose]

/-- Bytes that are no braces are passed over. -/
theorem closingOffset_append_of_no_brace {bs : List UInt8} (hopen : openByte ∉ bs)
    (hclose : closeByte ∉ bs) (depth offset : Nat) (bytes : List UInt8) :
    closingOffset depth offset (bs ++ bytes) = closingOffset depth (offset + bs.length) bytes := by
  induction bs generalizing offset with
  | nil => rfl
  | cons b bs ih =>
      obtain ⟨hb, hbs⟩ := not_or.mp (List.mem_cons.not.mp hopen)
      obtain ⟨hb', hbs'⟩ := not_or.mp (List.mem_cons.not.mp hclose)
      rw [List.cons_append, closingOffset_other (Ne.symm hb) (Ne.symm hb'), ih hbs hbs',
        List.length_cons]
      congr 1
      omega

/-- Counting brace bytes ends where counting braces ends. -/
theorem closingOffset_utf8Bytes (opened offset : Nat) (cs : List Char) :
    closingOffset (opened + 1) offset (utf8Bytes cs) =
      .ok (match openBehind opened cs with
        | some _ => none
        | none => some (offset + byteLength (spanToClose opened cs))) := by
  have hopenBytes : ∀ cs, utf8Bytes ('{' :: cs) = openByte :: utf8Bytes cs := fun _ => rfl
  have hcloseBytes : ∀ cs, utf8Bytes ('}' :: cs) = closeByte :: utf8Bytes cs := fun _ => rfl
  induction opened, cs using brace_induction generalizing offset with
  | nil opened => rfl
  | opens opened cs ih =>
      rw [hopenBytes, closingOffset_open, ih, openBehind_open, spanToClose_open, byteLength_open]
      simp only [Nat.add_assoc]
  | closes_text cs => rw [hcloseBytes, spanToClose_close_zero]; rfl
  | closes opened cs ih =>
      rw [hcloseBytes, closingOffset_close, ih, openBehind_close_succ, spanToClose_close_succ,
        byteLength_close]
      simp only [Nat.add_assoc]
  | other opened c cs hopen hclose ih =>
      rw [utf8Bytes_cons, closingOffset_append_of_no_brace (openByte_mem_iff.not.mpr hopen)
        (closeByte_mem_iff.not.mpr hclose), ih, String.length_utf8EncodeChar,
        openBehind_other hopen hclose, spanToClose_other hopen hclose, byteLength_cons]
      simp only [Nat.add_assoc]

/-! ## Cuts -/

/-- A cut beside the parts of a text gives the bytes of the part between. -/
theorem textBetween_utf8Bytes (before part behind : List Char) :
    textBetween (utf8Bytes (before ++ (part ++ behind))) (byteLength before)
      (byteLength before + byteLength part) = .ok (utf8Bytes part) := by
  have hfirst : isBoundary (utf8Bytes (before ++ (part ++ behind))) (byteLength before) = true := by
    rw [isBoundary_utf8Bytes, dropBytes?_byteLength_append]
    rfl
  have hbehind : isBoundary (utf8Bytes (before ++ (part ++ behind)))
      (byteLength before + byteLength part) = true := by
    rw [isBoundary_utf8Bytes, ← byteLength_append, ← List.append_assoc,
      dropBytes?_byteLength_append]
    rfl
  rw [textBetween, if_pos ⟨Nat.le_add_right _ _, hfirst, hbehind⟩, utf8Bytes_append,
    utf8Bytes_append, List.drop_left' (length_utf8Bytes before), Nat.add_sub_cancel_left,
    List.take_left' (length_utf8Bytes part)]

/-- A text is cut at a position of its bytes where it can be cut. -/
theorem textBetween_to_end (buffer : List Char) (position : Nat) :
    textBetween (utf8Bytes buffer) position (utf8Bytes buffer).length =
      match dropBytes? position buffer with
      | some tail => .ok (utf8Bytes tail)
      | none => .error .badCut := by
  cases hdrop : dropBytes? position buffer with
  | none =>
      have hfirst : isBoundary (utf8Bytes buffer) position = false := by
        rw [isBoundary_utf8Bytes, hdrop]
        rfl
      rw [textBetween, if_neg]
      simp [hfirst]
  | some tail =>
      obtain ⟨before, rfl, rfl⟩ := dropBytes?_eq_some_iff.mp hdrop
      have hcut := textBetween_utf8Bytes before tail []
      rw [List.append_nil, ← byteLength_append] at hcut
      rw [length_utf8Bytes, hcut]

theorem bytesFrom_utf8Bytes (before rest : List Char) :
    bytesFrom (utf8Bytes (before ++ rest)) (byteLength before) = .ok (utf8Bytes rest) := by
  rw [bytesFrom, if_pos (by simp), utf8Bytes_append, List.drop_left' (length_utf8Bytes before)]

theorem findIdx?_openByte_of_no_brace {cs : List Char} (h : '{' ∉ cs) :
    (utf8Bytes cs).findIdx? (· == openByte) = none := by
  rw [List.findIdx?_eq_none_iff]
  intro b hb
  rw [beq_eq_false_iff_ne]
  rintro rfl
  exact h (openByte_mem_utf8Bytes_iff.mp hb)

/-- The first brace byte is that of the first opening brace. -/
theorem findIdx?_openByte {lead : List Char} (hlead : '{' ∉ lead) (inner : List Char) :
    (utf8Bytes (lead ++ '{' :: inner)).findIdx? (· == openByte) = some (byteLength lead) := by
  have hbrace : (utf8Bytes ('{' :: inner)).findIdx? (· == openByte) = some 0 := rfl
  rw [utf8Bytes_append, List.findIdx?_append, findIdx?_openByte_of_no_brace hlead, hbrace,
    length_utf8Bytes, Option.none_or, Option.map_some, Nat.zero_add]

/-! ## The body -/

/-- Behind an opening brace its span is found. -/
theorem spanBytes_utf8Bytes (before inner : List Char) :
    spanBytes (utf8Bytes (before ++ inner)) (byteLength before) =
      .ok (utf8Bytes (spanToClose 0 inner)) := by
  simp only [spanBytes, bytesFrom_utf8Bytes, closingOffset_utf8Bytes 0, bind, Except.bind]
  cases hopen : openBehind 0 inner with
  | none =>
      obtain ⟨behind, hbehind⟩ := spanToClose_prefix 0 inner
      have hcut := textBetween_utf8Bytes before (spanToClose 0 inner) behind
      rw [hbehind] at hcut
      simp only [Nat.zero_add, hcut]
  | some still =>
      have hcut := textBetween_utf8Bytes before inner []
      rw [List.append_nil] at hcut
      simp only [length_utf8Bytes, byteLength_append, hcut, spanToClose_eq_self hopen]

/-- The first opening brace begins the body. -/
theorem bodyBytes_of_brace {lead : List Char} (hlead : '{' ∉ lead) (before inner : List Char) :
    bodyBytes (utf8Bytes (before ++ (lead ++ '{' :: inner))) (byteLength before) =
      .ok (some (utf8Bytes (spanToClose 0 inner))) := by
  have hplace : before ++ (lead ++ '{' :: inner) = before ++ lead ++ ['{'] ++ inner := by simp
  have hfirst : byteLength before + byteLength lead + 1 = byteLength (before ++ lead ++ ['{']) := by
    rw [byteLength_append, byteLength_append, byteLength_open, byteLength_nil]
  rw [bodyBytes, textBetween_to_end, dropBytes?_byteLength_append]
  simp only [findIdx?_openByte hlead, hfirst, hplace, spanBytes_utf8Bytes]
  rfl

/-- On the bytes of a text the same body is found, and nothing fails. -/
theorem bodyBytes_utf8Bytes (buffer : List Char) (position : Nat) :
    bodyBytes (utf8Bytes buffer) position =
      .ok ((bodyFrom? buffer position).map utf8Bytes) := by
  cases hdrop : dropBytes? position buffer with
  | none => rw [bodyBytes, textBetween_to_end, bodyFrom?, hdrop]; rfl
  | some tail =>
      obtain ⟨before, rfl, rfl⟩ := dropBytes?_eq_some_iff.mp hdrop
      rw [bodyFrom?_byteLength]
      by_cases hbrace : '{' ∈ tail
      · obtain ⟨lead, inner, rfl, hlead⟩ := List.eq_append_cons_of_mem hbrace
        rw [bodyBytes_of_brace hlead, bodyIn?_of_brace hlead, Option.map_some]
      · rw [bodyBytes, textBetween_to_end, hdrop, bodyIn?_eq_none_iff.mpr hbrace]
        simp only [findIdx?_openByte_of_no_brace hbrace]
        rfl

/-! ## Which body is found -/

/-- There is no body where the text cannot be cut or no opening brace follows. -/
theorem bodyFrom?_eq_none_iff {buffer : List Char} {position : Nat} :
    bodyFrom? buffer position = none ↔
      byteLength buffer < position ∨ InsideCharacter buffer position ∨
        ∀ before behind, buffer = before ++ '{' :: behind → byteLength before < position := by
  cases hdrop : dropBytes? position buffer with
  | none =>
      have hcut := dropBytes?_eq_none_iff.mp hdrop
      rw [bodyFrom?, hdrop, ← or_assoc]
      exact iff_of_true rfl (Or.inl hcut)
  | some tail =>
      have hcut : ¬ (byteLength buffer < position ∨ InsideCharacter buffer position) := by
        rw [← dropBytes?_eq_none_iff, hdrop]
        exact Option.some_ne_none tail
      obtain ⟨lead, rfl, rfl⟩ := dropBytes?_eq_some_iff.mp hdrop
      have hmem : '{' ∈ tail ↔ ∃ before behind, lead ++ tail = before ++ '{' :: behind ∧
          byteLength lead ≤ byteLength before := mem_iff_exists_byteLength_le
      rw [bodyFrom?_byteLength, bodyIn?_eq_none_iff, ← or_assoc, or_iff_right hcut, hmem]
      simp only [not_exists, not_and, Nat.not_le]

/-- A body is the span behind the first opening brace at or after the position. -/
theorem bodyFrom?_eq_some_iff {buffer body : List Char} {position : Nat} :
    bodyFrom? buffer position = some body ↔
      ∃ before lead inner, buffer = before ++ (lead ++ '{' :: inner) ∧
        byteLength before = position ∧ '{' ∉ lead ∧ spanToClose 0 inner = body := by
  constructor
  · intro h
    obtain ⟨tail, hdrop, hbody⟩ := Option.bind_eq_some_iff.mp h
    obtain ⟨before, rfl, rfl⟩ := dropBytes?_eq_some_iff.mp hdrop
    obtain ⟨lead, inner, rfl, hlead, rfl⟩ := exists_of_bodyIn? hbody
    exact ⟨before, lead, inner, rfl, rfl, hlead, rfl⟩
  · rintro ⟨before, lead, inner, rfl, rfl, hlead, rfl⟩
    rw [bodyFrom?_byteLength, bodyIn?_of_brace hlead]

/-- Which body is found, by what stands in the text.  On bytes it is found alike, and
nothing fails.  There is none exactly if the position is past the end or inside a
character, or no opening brace stands at or after it.  Otherwise the body begins behind
the first such brace, and it is the one balanced text there that a closing brace
follows, or else all that is left, which then closes no more than it opens. -/
theorem bodyFrom?_characterized (buffer : List Char) (position : Nat) :
    bodyBytes (utf8Bytes buffer) position = .ok ((bodyFrom? buffer position).map utf8Bytes) ∧
      (bodyFrom? buffer position = none ↔
        byteLength buffer < position ∨ InsideCharacter buffer position ∨
          ∀ before behind, buffer = before ++ '{' :: behind → byteLength before < position) ∧
      ∀ body, bodyFrom? buffer position = some body ↔
        ∃ before lead inner, buffer = before ++ (lead ++ '{' :: inner) ∧
          byteLength before = position ∧ '{' ∉ lead ∧
          ((∃ behind, inner = body ++ '}' :: behind ∧ Balanced body) ∨
            inner = body ∧ ∀ start, start <+: body → start.count '}' ≤ start.count '{') := by
  refine ⟨bodyBytes_utf8Bytes buffer position, bodyFrom?_eq_none_iff, fun body => ?_⟩
  simp only [bodyFrom?_eq_some_iff, spanToClose_eq_iff]

end ClassDiagram
