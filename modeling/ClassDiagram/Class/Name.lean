import ClassDiagram.Text.Quoted
import ClassDiagram.Text.Word

/-!
# Class names

A class name is an identifier: an ASCII letter or underscore followed by ASCII
letters, digits and underscores.  The type carries that fact, so a name can
only come from checking a text or from reading an identifier off a text.

Main results:

- `ClassName.append_of_read?` and `ClassName.length_lt_of_read?`: reading a
  name splits the text, and takes something off it.
-/

namespace ClassDiagram

open Text

/-- Whether the characters form an identifier. -/
def isName : List Char → Bool
  | [] => false
  | c :: cs => isNameStart c && cs.all isNameChar

/-- An identifier that names a class. -/
structure ClassName where
  /-- The characters of the name. -/
  letters : List Char
  /-- The characters form an identifier. -/
  isName_letters : isName letters = true
deriving DecidableEq

namespace ClassName

/-- The name as a string. -/
def toString (n : ClassName) : String :=
  String.ofList n.letters

instance : ToString ClassName := ⟨toString⟩

/-- The number of characters in the name. -/
def length (n : ClassName) : Nat :=
  n.letters.length

/-- The name that a text spells, if it spells one. -/
def ofString? (s : String) : Option ClassName :=
  if h : isName s.toList = true then some ⟨s.toList, h⟩ else none

/-- The message that refuses a text as a name. -/
def refusal (s : String) : String :=
  "Invalid class name: " ++ quoted s

/-- The longest name at the start of a text, with the text after it. -/
def read? : List Char → Option (ClassName × List Char)
  | [] => none
  | c :: cs =>
      if h : isNameStart c = true then
        some (⟨c :: cs.takeWhile isNameChar, by simp [isName, h]⟩, cs.dropWhile isNameChar)
      else none

@[simp] theorem read?_nil : read? [] = none := rfl

/-- What is read and what is left make up the text. -/
theorem append_of_read? {cs rest : List Char} {n : ClassName}
    (h : read? cs = some (n, rest)) : n.letters ++ rest = cs := by
  unfold read? at h
  split at h
  next => cases h
  next c cs =>
    split at h
    · cases h
      simp
    · cases h

theorem letters_ne_nil (n : ClassName) : n.letters ≠ [] := by
  intro h
  have := n.isName_letters
  simp [h, isName] at this

theorem length_lt_of_read? {cs rest : List Char} {n : ClassName}
    (h : read? cs = some (n, rest)) : rest.length < cs.length := by
  have hpos : 0 < n.letters.length := List.length_pos_iff.2 n.letters_ne_nil
  have := congrArg List.length (append_of_read? h)
  simp only [List.length_append] at this
  omega

end ClassName

end ClassDiagram
