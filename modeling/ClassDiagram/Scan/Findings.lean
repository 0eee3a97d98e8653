import ClassDiagram.Event
import ClassDiagram.Scan.Body
import ClassDiagram.Scan.Declaration
import ClassDiagram.Scan.Usage

/-!
# Findings of a scan

A scan gathers the classes it meets, a definition for each declared class that
has a body, and the relationships between classes.  It goes through the text
once for the declarations, which give classes, inheritance edges and first
bodies, and then adds the usage edges that the bodies give.

Each declaration has one of three outcomes, which decides the event it causes.

Main results:

- `Findings.declareAll_append` and `Findings.outcomes_append`: declarations are
  taken in one after the other, so a list of them can be taken in by parts.
- `Findings.length_outcomes`: every declaration has its outcome.
-/

namespace ClassDiagram

open Text

/-- What a scan has found so far. -/
structure Findings where
  /-- The classes met, declared or named as a supertype. -/
  classes : ClassSet := {}
  /-- A definition for each class whose body was found, filed under a class. -/
  records : List (ClassName × Definition) := []
  /-- The relationships found. -/
  relationships : RelationshipLog := {}
deriving DecidableEq

namespace Findings

/-- The findings before anything is scanned. -/
def empty : Findings := {}

/-- The definitions, in the order in which they were filed. -/
def definitions (s : Findings) : List Definition :=
  s.records.map Prod.snd

/-- Whether a definition is filed under the class. -/
def defines (s : Findings) (name : ClassName) : Bool :=
  s.records.any (·.1 == name)

/-! ## Single additions -/

/-- Adds a class. -/
def addClass (s : Findings) (name : ClassName) : Findings :=
  { s with classes := s.classes.insert name }

/-- Files a definition under its class, in place of the one filed there or as the last. -/
def putDefinition (s : Findings) (new : Definition) : Findings :=
  { s with
    records :=
      if s.defines new.name then
        s.records.map fun old => if old.1 = new.name then (new.name, new) else old
      else s.records ++ [(new.name, new)] }

/-- Pushes a relationship. -/
def addRelationship (s : Findings) (r : Relationship) : Findings :=
  { s with relationships := s.relationships.push r }

/-- Adds the supertype of a class and the edge between the two. -/
def addSupertype (s : Findings) (name : ClassName) : Option ClassName → Findings
  | none => s
  | some supertype => (s.addClass supertype).addRelationship (.inheritance supertype name)

/-! ## Declarations -/

/-- What becomes of the body of a declaration. -/
inductive Outcome
  /-- The body makes a new definition. -/
  | defined (new : Definition)
  /-- The class has a definition already. -/
  | repeated (name : ClassName)
  /-- No body follows. -/
  | bodiless (name : ClassName)
deriving DecidableEq

/-- The event that an outcome causes. -/
def Outcome.event? : Outcome → Option Event
  | defined _ => none
  | repeated name => some (.declaredAgain name)
  | bodiless name => some (.bodyMissing name)

/-- What becomes of the body of a declaration in the text. -/
def outcome (s : Findings) (buffer : List Char) (d : Declaration) : Outcome :=
  match bodyFrom? buffer d.start with
  | none => .bodiless d.name
  | some body => if s.defines d.name then .repeated d.name else .defined ⟨d.name, body⟩

/-- Takes in the outcome of a declaration. -/
def settle (s : Findings) : Outcome → Findings
  | .defined new => { s with records := s.records ++ [(new.name, new)] }
  | .repeated _ | .bodiless _ => s

/-- Takes in a declaration of the text. -/
def declare (s : Findings) (buffer : List Char) (d : Declaration) : Findings :=
  ((s.addClass d.name).addSupertype d.name d.supertype).settle (s.outcome buffer d)

/-- Takes in declarations of the text one after the other. -/
def declareAll (s : Findings) (buffer : List Char) (ds : List Declaration) : Findings :=
  ds.foldl (fun s d => s.declare buffer d) s

/-- The outcomes of declarations that are taken in one after the other. -/
def outcomes (s : Findings) (buffer : List Char) : List Declaration → List Outcome
  | [] => []
  | d :: ds => s.outcome buffer d :: (s.declare buffer d).outcomes buffer ds

@[simp] theorem declareAll_nil (s : Findings) (buffer : List Char) :
    s.declareAll buffer [] = s := rfl

@[simp] theorem declareAll_cons (s : Findings) (buffer : List Char) (d : Declaration)
    (ds : List Declaration) :
    s.declareAll buffer (d :: ds) = (s.declare buffer d).declareAll buffer ds := rfl

theorem declareAll_append (s : Findings) (buffer : List Char) (ds es : List Declaration) :
    s.declareAll buffer (ds ++ es) = (s.declareAll buffer ds).declareAll buffer es :=
  List.foldl_append

theorem outcomes_append (s : Findings) (buffer : List Char) (ds es : List Declaration) :
    s.outcomes buffer (ds ++ es) =
      s.outcomes buffer ds ++ (s.declareAll buffer ds).outcomes buffer es := by
  induction ds generalizing s with
  | nil => rfl
  | cons d ds ih => simp [outcomes, ih]

@[simp] theorem length_outcomes (s : Findings) (buffer : List Char) (ds : List Declaration) :
    (s.outcomes buffer ds).length = ds.length := by
  induction ds generalizing s with
  | nil => rfl
  | cons d ds ih => simp [outcomes, ih]

/-- Takes in all declarations of a text. -/
def addDeclarations (s : Findings) (buffer : List Char) : Findings :=
  s.declareAll buffer (declarations buffer)

/-- The events of taking in all declarations of a text. -/
def declarationEvents (s : Findings) (buffer : List Char) : List Event :=
  (s.outcomes buffer (declarations buffer)).filterMap Outcome.event?

/-! ## Usages -/

/-- Adds the usage edges from the definitions to the classes found. -/
def addUsages (s : Findings) : Findings :=
  { s with relationships := s.relationships.pushAll (usagesIn s.definitions s.classes) }

end Findings

/-! ## Whole scans -/

/-- The classes, definitions and relationships of a text. -/
def scan (buffer : List Char) : Findings :=
  (Findings.empty.addDeclarations buffer).addUsages

/-- The events of scanning a text. -/
def scanEvents (buffer : List Char) : List Event :=
  let found := scan buffer
  Findings.empty.declarationEvents buffer ++
    [.scanned (byteLength buffer) found.classes.size found.definitions.length
      found.relationships.size]

end ClassDiagram
