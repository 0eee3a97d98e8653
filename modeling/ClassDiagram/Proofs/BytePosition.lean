import ClassDiagram.Text.Utf8
import Mathlib.Data.List.Basic

/-!
# Byte positions in texts

A position in a text counts bytes.  A text can be cut at a position where one of its
characters begins or where it ends; the others lie inside a character or past the end.
On the bytes alone the same is told by one bit pattern, that of the bytes which go on
with a character.  No such byte is ASCII, so an ASCII character is found in the bytes
exactly where it stands in the text.

Main results:

- Theorem `exists_append_of_byteLength_le`: parts that start a text start one another.
- Theorems `dropBytes?_eq_some_iff` and `dropBytes?_eq_none_iff`: where a text can be cut.
- Theorem `ascii_mem_utf8EncodeChar_iff`: an ASCII byte is the character it encodes.
- Theorem `isBoundary_utf8Bytes`: the bytes of a text tell where it can be cut.
-/

namespace ClassDiagram.Text

/-! ## Cutting a text -/

/-- The byte position is one behind the first byte of a character and before the end of
that character. -/
def InsideCharacter (cs : List Char) (position : Nat) : Prop :=
  ∃ before c behind, cs = before ++ c :: behind ∧ byteLength before < position ∧
    position < byteLength before + c.utf8Size

/-- A text is cut where a part of it ends. -/
theorem dropBytes?_eq_some_iff {position : Nat} {cs rest : List Char} :
    dropBytes? position cs = some rest ↔
      ∃ before, cs = before ++ rest ∧ byteLength before = position := by
  constructor
  · intro h
    fun_induction dropBytes? position cs with
    | case1 cs => exact ⟨[], Option.some.inj h, rfl⟩
    | case2 n => cases h
    | case3 n c cs hle ih =>
        obtain ⟨before, hcs, hlength⟩ := ih h
        refine ⟨c :: before, by rw [hcs, List.cons_append], ?_⟩
        rw [byteLength_cons, hlength]
        omega
    | case4 n c cs hlt => cases h
  · rintro ⟨before, rfl, rfl⟩
    exact dropBytes?_byteLength_append before rest

/-- Of two parts that start a text, the shorter one starts the other. -/
theorem exists_append_of_byteLength_le {before before' cs cs' : List Char}
    (h : before ++ cs = before' ++ cs') (hle : byteLength before ≤ byteLength before') :
    ∃ gap, before' = before ++ gap ∧ cs = gap ++ cs' := by
  rcases List.append_eq_append_iff.mp h with hgap | ⟨gap, hbefore, hcs⟩
  · exact hgap
  · cases gap with
    | nil => exact ⟨[], by simpa using hbefore.symm, by simpa using hcs.symm⟩
    | cons c gap =>
        have hpos := c.utf8Size_pos
        rw [hbefore, byteLength_append, byteLength_cons] at hle
        omega

/-- A text is cut in one way at a byte position. -/
theorem eq_of_append_eq_of_byteLength {before before' cs cs' : List Char}
    (h : before ++ cs = before' ++ cs') (hlength : byteLength before = byteLength before') :
    cs = cs' := by
  have hdrop := dropBytes?_byteLength_append before cs
  rw [h, hlength, dropBytes?_byteLength_append] at hdrop
  exact (Option.some.inj hdrop).symm

/-- A text cannot be cut past its end or inside a character. -/
theorem dropBytes?_eq_none_iff {position : Nat} {cs : List Char} :
    dropBytes? position cs = none ↔
      byteLength cs < position ∨ InsideCharacter cs position := by
  constructor
  · intro h
    fun_induction dropBytes? position cs with
    | case1 cs => cases h
    | case2 n => exact Or.inl (Nat.succ_pos n)
    | case3 n c cs hle ih =>
        rcases ih h with hpast | ⟨before, d, behind, hcs, hlow, hhigh⟩
        · left
          rw [byteLength_cons]
          omega
        · right
          refine ⟨c :: before, d, behind, by rw [hcs, List.cons_append], ?_, ?_⟩
          all_goals
            rw [byteLength_cons]
            omega
    | case4 n c cs hlt => exact Or.inr ⟨[], c, cs, rfl, Nat.succ_pos n, by simpa using hlt⟩
  · intro h
    cases hdrop : dropBytes? position cs with
    | none => rfl
    | some rest =>
        obtain ⟨lead, rfl, rfl⟩ := dropBytes?_eq_some_iff.mp hdrop
        rcases h with hpast | ⟨before, c, behind, heq, hlow, hhigh⟩
        · rw [byteLength_append] at hpast
          omega
        · obtain ⟨gap, rfl, hgap⟩ := exists_append_of_byteLength_le heq.symm (Nat.le_of_lt hlow)
          cases gap with
          | nil => simp at hlow
          | cons d gap =>
              obtain ⟨rfl, -⟩ := List.cons.inj hgap
              rw [byteLength_append, byteLength_cons] at hhigh
              omega

/-! ## Bytes of a character -/

/-- Whether a byte goes on with a character that an earlier byte began. -/
def continues (b : UInt8) : Bool :=
  decide (0x80 ≤ b.toNat ∧ b.toNat < 0xc0)

theorem continues_ofNat {n : Nat} (h : n < 0x100) :
    continues (UInt8.ofNat n) = decide (0x80 ≤ n ∧ n < 0xc0) := by
  rw [continues, UInt8.toNat_ofNat', Nat.mod_eq_of_lt h]

/-- Of the bytes of a character, the first begins it and the others go on with it. -/
theorem exists_utf8EncodeChar_eq_cons (c : Char) :
    ∃ first more, String.utf8EncodeChar c = first :: more ∧ continues first = false ∧
      ∀ b ∈ more, continues b = true := by
  unfold String.utf8EncodeChar
  simp only
  generalize c.val.toNat = code
  split_ifs
  all_goals
    refine ⟨_, _, rfl, ?_, ?_⟩
    · rw [continues_ofNat (by omega), decide_eq_false_iff_not]
      omega
    · simp (disch := omega) only [List.forall_mem_cons, List.not_mem_nil, false_implies,
        implies_true, and_true, continues_ofNat, decide_eq_true_eq]
      try omega

/-- An ASCII byte is the character it encodes and part of no other one. -/
theorem ascii_mem_utf8EncodeChar_iff {b : UInt8} (hb : b.toNat < 0x80) {c : Char} :
    b ∈ String.utf8EncodeChar c ↔ c.toNat = b.toNat := by
  have hcode : c.val.toNat = c.toNat := rfl
  unfold String.utf8EncodeChar
  simp only [hcode]
  split_ifs
  all_goals
    simp only [List.mem_cons, List.not_mem_nil, or_false, ← UInt8.toNat_inj, UInt8.toNat_ofNat']
    omega

/-! ## Boundaries told by bytes -/

/-- Whether a character begins, or the text ends, at a position of its bytes. -/
def isBoundary (bytes : List UInt8) (position : Nat) : Bool :=
  match bytes[position]? with
  | some b => !continues b
  | none => position == bytes.length

theorem utf8Bytes_cons (c : Char) (cs : List Char) :
    utf8Bytes (c :: cs) = String.utf8EncodeChar c ++ utf8Bytes cs :=
  rfl

/-- A text can be cut at its front. -/
theorem isBoundary_utf8Bytes_zero (cs : List Char) : isBoundary (utf8Bytes cs) 0 = true := by
  cases cs with
  | nil => rfl
  | cons c cs =>
      obtain ⟨first, more, hbytes, hfirst, -⟩ := exists_utf8EncodeChar_eq_cons c
      rw [isBoundary, utf8Bytes_cons, hbytes, List.cons_append, List.getElem?_cons_zero]
      simp only [hfirst, Bool.not_false]

/-- Behind a character the boundaries are those of the rest. -/
theorem isBoundary_utf8Bytes_cons {c : Char} {position : Nat} (h : c.utf8Size ≤ position)
    (cs : List Char) :
    isBoundary (utf8Bytes (c :: cs)) position =
      isBoundary (utf8Bytes cs) (position - c.utf8Size) := by
  have hlength := String.length_utf8EncodeChar c
  rw [isBoundary, isBoundary, utf8Bytes_cons, List.getElem?_append_right (by omega), hlength,
    List.length_append, hlength]
  split
  · rfl
  · rw [beq_eq_beq]
    omega

/-- Inside its first character a text has no boundary. -/
theorem isBoundary_utf8Bytes_cons_of_lt {c : Char} {n : Nat} (h : n + 1 < c.utf8Size)
    (cs : List Char) : isBoundary (utf8Bytes (c :: cs)) (n + 1) = false := by
  obtain ⟨first, more, hbytes, -, hmore⟩ := exists_utf8EncodeChar_eq_cons c
  have hlength := String.length_utf8EncodeChar c
  rw [hbytes, List.length_cons] at hlength
  have hn : n < more.length := by omega
  rw [isBoundary, utf8Bytes_cons, hbytes, List.cons_append, List.getElem?_cons_succ,
    List.getElem?_append_left hn, List.getElem?_eq_getElem hn]
  simp only [hmore _ (List.getElem_mem hn), Bool.not_true]

/-- The bytes of a text tell where it can be cut. -/
theorem isBoundary_utf8Bytes (position : Nat) (cs : List Char) :
    isBoundary (utf8Bytes cs) position = (dropBytes? position cs).isSome := by
  fun_induction dropBytes? position cs with
  | case1 cs => exact isBoundary_utf8Bytes_zero cs
  | case2 n => rfl
  | case3 n c cs hle ih => rw [isBoundary_utf8Bytes_cons hle, ih]
  | case4 n c cs hlt => exact isBoundary_utf8Bytes_cons_of_lt (Nat.lt_of_not_le hlt) cs

end ClassDiagram.Text
