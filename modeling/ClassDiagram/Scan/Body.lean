import ClassDiagram.Text.Utf8

/-!
# Bodies of classes

The body of a class is the text between the first opening brace after its
declaration and the brace that closes it.  Braces are matched by counting
alone; where the text ends before the count returns to zero, the rest of the
text is the body.

Main results:

- `spanToClose_prefix`: what is found is the start of the text.
-/

namespace ClassDiagram

open Text

/-- The text up to the brace that closes it, with the number of braces still
open inside it; all of the text if no such brace follows. -/
def spanToClose : Nat → List Char → List Char
  | _, [] => []
  | opened, '{' :: cs => '{' :: spanToClose (opened + 1) cs
  | 0, '}' :: _ => []
  | opened + 1, '}' :: cs => '}' :: spanToClose opened cs
  | opened, c :: cs => c :: spanToClose opened cs

@[simp] theorem spanToClose_nil (opened : Nat) : spanToClose opened [] = [] := by
  simp [spanToClose]

/-- What is found is the start of the text. -/
theorem spanToClose_prefix (opened : Nat) (cs : List Char) : spanToClose opened cs <+: cs := by
  induction cs generalizing opened with
  | nil => simp
  | cons c cs ih =>
    unfold spanToClose
    split
    next => exact List.nil_prefix
    next heq => cases heq; simpa using ih _
    next => exact List.nil_prefix
    next heq => cases heq; simpa using ih _
    next heq => cases heq; simpa using ih _

/-- The body that the first opening brace of a text begins. -/
def bodyIn? (cs : List Char) : Option (List Char) :=
  match cs.dropWhile (· != '{') with
  | [] => none
  | _ :: inner => some (spanToClose 0 inner)

/-- The body that begins at or after a byte position. -/
def bodyFrom? (buffer : List Char) (position : Nat) : Option (List Char) :=
  (dropBytes? position buffer).bind bodyIn?

end ClassDiagram
