import ClassDiagram.Text.Blank
import ClassDiagram.Text.Word

/-!
# White space and words

White space and word characters are given by two tables of code points.  They share
none, so that white space ends every word, and in particular every name.

Main results:

- Theorem `isWordChar_of_isBlank`: white space is no part of a word.
- Theorem `isWordChar_eq_isNameChar`: in ASCII the characters of words are those of
  identifiers.
-/

namespace ClassDiagram.Text

theorem inRanges_iff {rs : List CodeRange} {c : Char} :
    inRanges rs c = true ↔ ∃ r ∈ rs, r.first ≤ c.toNat ∧ c.toNat ≤ r.last := by
  simp [inRanges, CodeRange.contains]

/-- A character of some ranges lies in no range that is apart from all of them. -/
theorem not_inRanges_of_apart {rs qs : List CodeRange}
    (h : ∀ r ∈ rs, ∀ q ∈ qs, r.last < q.first ∨ q.last < r.first) {c : Char}
    (hc : inRanges rs c = true) : inRanges qs c = false := by
  rw [← Bool.not_eq_true, inRanges_iff]
  rintro ⟨q, hq, hfirst, hlast⟩
  obtain ⟨r, hr, hrfirst, hrlast⟩ := inRanges_iff.mp hc
  have hapart := h r hr q hq
  omega

/-- The characters of identifiers lie between the digit zero and the letter z. -/
theorem toNat_of_isNameChar {c : Char} (h : isNameChar c = true) :
    0x30 ≤ c.toNat ∧ c.toNat ≤ 0x7a := by
  have hranges : ((decide ('A'.val ≤ c.val ∧ c.val ≤ 'Z'.val) ||
      ('a'.val ≤ c.val && c.val ≤ 'z'.val)) || ('0'.val ≤ c.val && c.val ≤ '9'.val) ||
      c == '_') = true := h
  simp only [Bool.or_eq_true, Bool.and_eq_true, decide_eq_true_eq, beq_iff_eq,
    UInt32.le_iff_toNat_le] at hranges
  change (((0x41 ≤ c.toNat ∧ c.toNat ≤ 0x5a) ∨ 0x61 ≤ c.toNat ∧ c.toNat ≤ 0x7a) ∨
    0x30 ≤ c.toNat ∧ c.toNat ≤ 0x39) ∨ c = '_' at hranges
  rcases hranges with hrange | rfl
  · omega
  · decide

theorem isNameChar_of_isBlank {c : Char} (h : isBlank c = true) : isNameChar c = false := by
  rw [← Bool.not_eq_true]
  intro hname
  obtain ⟨hlow, hhigh⟩ := toNat_of_isNameChar hname
  obtain ⟨r, hr, hfirst, hlast⟩ := inRanges_iff.mp h
  have hapart : ∀ r ∈ blankRanges, r.last < 0x30 ∨ 0x7a < r.first := by decide
  have hr := hapart r hr
  omega

theorem isNameStart_of_isBlank {c : Char} (h : isBlank c = true) : isNameStart c = false := by
  rw [← Bool.not_eq_true]
  intro hstart
  have hname := isNameChar_of_isNameStart hstart
  rw [isNameChar_of_isBlank h] at hname
  cases hname

/-- White space is no part of a word. -/
theorem isWordChar_of_isBlank {c : Char} (h : isBlank c = true) : isWordChar c = false := by
  have hapart : ∀ r ∈ blankRanges, ∀ q ∈ wordRanges, r.last < q.first ∨ q.last < r.first := by
    decide +kernel
  rw [isWordChar, isNameChar_of_isBlank h, not_inRanges_of_apart hapart h]
  rfl

/-- The table of word characters starts behind the characters of one byte, so among these
only those of identifiers are parts of words. -/
theorem isWordChar_eq_isNameChar {c : Char} (h : c.toNat < 0x80) :
    isWordChar c = isNameChar c := by
  have hfirst : ∀ r ∈ wordRanges, 0x80 ≤ r.first := by decide +kernel
  have hranges : inRanges wordRanges c = false := by
    rw [← Bool.not_eq_true, inRanges_iff]
    rintro ⟨r, hr, hlow, -⟩
    have hr := hfirst r hr
    omega
  rw [isWordChar, hranges, Bool.or_false]

end ClassDiagram.Text
