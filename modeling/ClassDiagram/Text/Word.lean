import ClassDiagram.Text.WordTable

/-!
# Word characters

Two notions of a character that belongs to a word: the characters of an
identifier, which are ASCII, and the wider class of word characters of any
script, which decides where a token ends.  The identifier characters are the
ASCII members of the wider class.
-/

namespace ClassDiagram.Text

/-- An ASCII letter or an underscore: what an identifier starts with. -/
def isNameStart (c : Char) : Bool :=
  c.isAlpha || c == '_'

/-- An ASCII letter, digit or underscore: what an identifier goes on with. -/
def isNameChar (c : Char) : Bool :=
  c.isAlphanum || c == '_'

/-- A letter, mark, decimal digit, connector or join control of any script. -/
def isWordChar (c : Char) : Bool :=
  isNameChar c || inRanges wordRanges c

theorem isNameChar_of_isNameStart {c : Char} (h : isNameStart c = true) :
    isNameChar c = true := by
  simp only [isNameStart, isNameChar, Char.isAlphanum, Bool.or_eq_true] at *
  exact h.imp Or.inl id

theorem isWordChar_of_isNameChar {c : Char} (h : isNameChar c = true) :
    isWordChar c = true := by
  simp [isWordChar, h]

end ClassDiagram.Text
