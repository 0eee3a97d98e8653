import ClassDiagram.Class.Name
import ClassDiagram.Text.Blank
import ClassDiagram.Text.Lead
import ClassDiagram.Text.Utf8

/-!
# Class declarations in a text

A declaration is the keyword `class`, white space and a name, optionally
followed by a colon and the name of a supertype.  Declarations are looked for
from left to right, anywhere in the text, and the search goes on where the
last one ended; text that declares nothing is passed over.

Main results:

- `Heading.length_rest_lt_of_read?`: a heading takes something off the text, so
  the search ends.
-/

namespace ClassDiagram

open Text

/-! ## Headings -/

/-- The word that opens a declaration. -/
def classKeyword : List Char := ['c', 'l', 'a', 's', 's']

/-- A declaration read at the start of a text. -/
structure Heading where
  /-- The declared class. -/
  name : ClassName
  /-- The class it extends, if one is named. -/
  supertype : Option ClassName
  /-- The text after the declaration. -/
  rest : List Char

/-- A colon and a name at the start of a text, each after optional white space. -/
def readSupertype? : List Char → Option (ClassName × List Char)
  | ':' :: cs => ClassName.read? (dropBlanks cs)
  | _ => none

theorem length_lt_of_readSupertype? {cs rest : List Char} {n : ClassName}
    (h : readSupertype? cs = some (n, rest)) : rest.length < cs.length := by
  unfold readSupertype? at h
  split at h
  next cs =>
    have h₁ := ClassName.length_lt_of_read? h
    have h₂ := length_dropBlanks_le cs
    simp only [List.length_cons]
    omega
  next => cases h

namespace Heading

/-- The rest of a heading once its name is read: white space, and a supertype
if one is given. -/
def ofName (name : ClassName) (cs : List Char) : Heading :=
  match readSupertype? (dropBlanks cs) with
  | some (supertype, rest) => ⟨name, some supertype, rest⟩
  | none => ⟨name, none, dropBlanks cs⟩

theorem length_rest_ofName_le (name : ClassName) (cs : List Char) :
    (ofName name cs).rest.length ≤ cs.length := by
  have hb := length_dropBlanks_le cs
  unfold ofName
  split
  next h =>
    have := length_lt_of_readSupertype? h
    simp only
    omega
  next => exact hb

/-- The declaration at the start of a text. -/
def read? (cs : List Char) : Option Heading := do
  let afterKeyword ← afterLead? classKeyword cs
  let atName ← dropBlanks1? afterKeyword
  let (name, rest) ← ClassName.read? atName
  return ofName name rest

theorem length_rest_lt_of_read? {cs : List Char} {h : Heading}
    (hr : read? cs = some h) : h.rest.length < cs.length := by
  simp only [read?, bind, Option.bind_eq_some_iff] at hr
  obtain ⟨afterKeyword, h₁, atName, h₂, ⟨name, rest⟩, h₃, h₄⟩ := hr
  have l₁ := length_le_of_afterLead? h₁
  have l₂ := length_lt_of_dropBlanks1? h₂
  have l₃ := ClassName.length_lt_of_read? h₃
  have l₄ := length_rest_ofName_le name rest
  simp only [pure, Option.some.injEq] at h₄
  subst h₄
  omega

end Heading

/-! ## Declarations -/

/-- A declaration and the byte position at which it starts. -/
structure Declaration where
  /-- The declared class. -/
  name : ClassName
  /-- The class it extends, if one is named. -/
  supertype : Option ClassName
  /-- The byte position of its keyword. -/
  start : Nat
deriving DecidableEq

/-- The declarations in a text that itself starts at the given byte position. -/
def declarationsFrom (position : Nat) (cs : List Char) : List Declaration :=
  match _found : Heading.read? cs with
  | some heading =>
      ⟨heading.name, heading.supertype, position⟩ ::
        declarationsFrom (position + (byteLength cs - byteLength heading.rest)) heading.rest
  | none =>
      match cs with
      | [] => []
      | c :: cs => declarationsFrom (position + c.utf8Size) cs
termination_by cs.length
decreasing_by
  · exact Heading.length_rest_lt_of_read? _found
  · simp

/-- All declarations in a text, from left to right. -/
def declarations (buffer : List Char) : List Declaration :=
  declarationsFrom 0 buffer

end ClassDiagram
