import ClassDiagram.Class.Relationship
import ClassDiagram.Class.Set
import ClassDiagram.Text.Blank
import ClassDiagram.Text.Lead

/-!
# Uses of a class in a body

Three lexical patterns show that a body uses a class: it creates an instance,
accesses a member of the class, or mentions the class as a token of its own.
Each pattern is a test at one place of the body, looked for at every place; a
body uses a class if any of the three is found.

Main results:

- `somewhere_iff`: a pattern is found exactly if the test holds of an end of
  the text.
- `ClassName.isUsedIn_iff`: each kind of evidence is enough on its own.
-/

namespace ClassDiagram

open Text

/-! ## Patterns at one place -/

/-- Whether a test holds of the text at some place, its end included. -/
def somewhere (test : List Char → Bool) : List Char → Bool
  | [] => test []
  | c :: cs => test (c :: cs) || somewhere test cs

/-- A pattern is found exactly if the test holds of an end of the text. -/
theorem somewhere_iff {test : List Char → Bool} {cs : List Char} :
    somewhere test cs = true ↔ ∃ lead rest, cs = lead ++ rest ∧ test rest = true := by
  constructor
  · intro h
    induction cs with
    | nil => exact ⟨[], [], rfl, h⟩
    | cons c cs ih =>
      rcases Bool.or_eq_true_iff.1 h with hc | hs
      · exact ⟨[], c :: cs, rfl, hc⟩
      · obtain ⟨lead, rest, rfl, hr⟩ := ih hs
        exact ⟨c :: lead, rest, rfl, hr⟩
  · rintro ⟨lead, rest, rfl, hr⟩
    induction lead with
    | nil => cases rest <;> simp_all [somewhere]
    | cons c lead ih => simp [somewhere, ih]

/-- Whether the text, after white space, goes on with the character. -/
def nextIs (c : Char) (cs : List Char) : Bool :=
  (dropBlanks cs).head? == some c

/-- The word that creates an instance. -/
def newKeyword : List Char := ['n', 'e', 'w']

/-- Whether the text starts with the creation of an instance: the word `new`,
white space, the class and an opening parenthesis. -/
def createsAt (target cs : List Char) : Bool :=
  ((afterLead? newKeyword cs).bind dropBlanks1?).any fun atTarget =>
    (afterLead? target atTarget).any (nextIs '(')

/-- Whether the text, after white space, goes on with a dot and, after more
white space, with the start of a name. -/
def memberFollows (cs : List Char) : Bool :=
  match dropBlanks cs with
  | '.' :: cs => (dropBlanks cs).head?.any isNameStart
  | _ => false

/-- Whether the text starts with the class and a member of it. -/
def accessesAt (target cs : List Char) : Bool :=
  (afterLead? target cs).any memberFollows

/-- Whether a token may end before this text: at the end, before a question
mark, an angle or a square bracket, and before any character of no word. -/
def tokenEnds : List Char → Bool
  | [] => true
  | c :: _ => c == '?' || !isWordChar c || c == '<' || c == '['

/-- Whether the text starts with the class as the end of a token. -/
def mentionsAt (target cs : List Char) : Bool :=
  (afterLead? target cs).any tokenEnds

/-- Whether the class is mentioned at some place where a token may start; the
flag says whether one may start at the front of the text. -/
def mentionedFrom (target : List Char) : Bool → List Char → Bool
  | fresh, [] => fresh && mentionsAt target []
  | fresh, c :: cs =>
      (fresh && mentionsAt target (c :: cs)) || mentionedFrom target (!isNameChar c) cs

/-! ## Evidence -/

/-- The kinds of evidence that a body uses a class. -/
inductive Evidence
  | instantiation
  | staticAccess
  | typeReference
deriving DecidableEq, Repr

namespace ClassName

/-- Whether the body creates an instance of the class. -/
def isInstantiatedIn (target : ClassName) (body : List Char) : Bool :=
  somewhere (createsAt target.letters) body

/-- Whether the body accesses a member through the class. -/
def isAccessedIn (target : ClassName) (body : List Char) : Bool :=
  somewhere (accessesAt target.letters) body

/-- Whether the body mentions the class as a token. -/
def isMentionedIn (target : ClassName) (body : List Char) : Bool :=
  mentionedFrom target.letters true body

/-- The evidence in a body for the use of the class. -/
def evidenceIn (target : ClassName) (body : List Char) : List Evidence :=
  (if target.isInstantiatedIn body then [.instantiation] else []) ++
  (if target.isAccessedIn body then [.staticAccess] else []) ++
  (if target.isMentionedIn body then [.typeReference] else [])

/-- Whether the body uses the class. -/
def isUsedIn (target : ClassName) (body : List Char) : Bool :=
  !(target.evidenceIn body).isEmpty

/-- Each kind of evidence is enough on its own. -/
theorem isUsedIn_iff {target : ClassName} {body : List Char} :
    target.isUsedIn body = true ↔
      target.isInstantiatedIn body = true ∨ target.isAccessedIn body = true ∨
        target.isMentionedIn body = true := by
  unfold isUsedIn evidenceIn
  cases target.isInstantiatedIn body <;> cases target.isAccessedIn body <;>
    cases target.isMentionedIn body <;> simp

end ClassName

/-! ## Usage relationships -/

/-- A class with the text between its braces. -/
structure Definition where
  /-- The class. -/
  name : ClassName
  /-- The text between its braces. -/
  body : List Char
deriving DecidableEq

/-- The uses that a definition makes of other classes, in the order of the classes. -/
def Definition.usages (d : Definition) (classes : ClassSet) : List Relationship :=
  (classes.names.filter fun target => decide (target ≠ d.name) && target.isUsedIn d.body).map
    (Relationship.usage d.name)

/-- The uses that definitions make of classes, in the order of the definitions. -/
def usagesIn (definitions : List Definition) (classes : ClassSet) : List Relationship :=
  definitions.flatMap (·.usages classes)

end ClassDiagram
