import ClassDiagram.Text.CodeRange

/-!
# Blank characters

A blank is a character with the White_Space property: twenty-five code points,
of which six are ASCII.  Declarations, the uses of a class and configuration
values all treat exactly these characters as white space.
-/

namespace ClassDiagram.Text

/-- The code points with the White_Space property. -/
def blankRanges : List CodeRange :=
  CodeRange.pairUp
    [0x09, 0x0d, 0x20, 0x20, 0x85, 0x85, 0xa0, 0xa0, 0x1680, 0x1680,
     0x2000, 0x200a, 0x2028, 0x2029, 0x202f, 0x202f, 0x205f, 0x205f,
     0x3000, 0x3000]

/-- Whether a character is white space. -/
def isBlank (c : Char) : Bool :=
  inRanges blankRanges c

/-- The text after its leading white space. -/
def dropBlanks (cs : List Char) : List Char :=
  cs.dropWhile isBlank

@[simp] theorem dropBlanks_nil : dropBlanks [] = [] := rfl

theorem length_dropBlanks_le (cs : List Char) : (dropBlanks cs).length ≤ cs.length :=
  (List.dropWhile_sublist isBlank).length_le

/-- The text after its leading white space, where there has to be some. -/
def dropBlanks1? : List Char → Option (List Char)
  | c :: cs => if isBlank c then some (dropBlanks cs) else none
  | [] => none

theorem length_lt_of_dropBlanks1? {cs rest : List Char}
    (h : dropBlanks1? cs = some rest) : rest.length < cs.length := by
  unfold dropBlanks1? at h
  split at h
  next c cs =>
    split at h
    · cases h
      exact Nat.lt_succ_of_le (length_dropBlanks_le cs)
    · cases h
  next => cases h

/-- The text without the white space after its last other character. -/
def dropBlanksEnd (cs : List Char) : List Char :=
  (dropBlanks cs.reverse).reverse

/-- The text without white space at either end. -/
def trim (cs : List Char) : List Char :=
  dropBlanksEnd (dropBlanks cs)

end ClassDiagram.Text
