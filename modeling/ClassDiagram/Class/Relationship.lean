import ClassDiagram.Class.Name

/-!
# Relationships between classes

A relationship is a directed edge between two classes.  Inheritance points
from the supertype to the subtype, usage from the user to the class it uses.
The log of relationships keeps each of them once, in the order in which they
were first pushed, and never an edge from a class to itself.

Main results:

- `RelationshipLog.entries_push` and `RelationshipLog.prefix_push`: pushing
  appends exactly what is new and no loop, and keeps what is there.
-/

namespace ClassDiagram

/-! ## Kinds -/

/-- The two ways in which classes relate. -/
inductive RelationshipKind
  | inheritance
  | usage
deriving DecidableEq, Repr

namespace RelationshipKind

/-- The word for the kind in edge ids and styles. -/
def tag : RelationshipKind → String
  | inheritance => "inheritance"
  | usage => "usage"

/-- The caption of an edge of the kind. -/
def label : RelationshipKind → String
  | inheritance => "inherits"
  | usage => "uses"

/-- The arrow that stands between the two names. -/
def arrow : RelationshipKind → String
  | inheritance => "<|--"
  | usage => "..>"

/-- The kind with the given tag. -/
def ofTag? (tag : String) : Option RelationshipKind :=
  if tag = "inheritance" then some inheritance
  else if tag = "usage" then some usage
  else none

@[simp] theorem ofTag?_tag (k : RelationshipKind) : ofTag? k.tag = some k := by
  cases k <;> decide

end RelationshipKind

/-! ## Relationships -/

/-- A directed edge between two classes. -/
structure Relationship where
  /-- The supertype, or the user. -/
  source : ClassName
  /-- The subtype, or the class that is used. -/
  target : ClassName
  /-- How the two relate. -/
  kind : RelationshipKind
deriving DecidableEq

namespace Relationship

/-- The inheritance edge from a supertype to a subtype. -/
def inheritance (supertype subtype : ClassName) : Relationship :=
  ⟨supertype, subtype, .inheritance⟩

/-- The usage edge from a user to the class it uses. -/
def usage (user used : ClassName) : Relationship :=
  ⟨user, used, .usage⟩

/-- Whether the edge leads from a class to itself. -/
def isLoop (r : Relationship) : Bool :=
  decide (r.source = r.target)

/-- The relationship as a line of text: source, arrow, target. -/
def toString (r : Relationship) : String :=
  r.source.toString ++ " " ++ r.kind.arrow ++ " " ++ r.target.toString

instance : ToString Relationship := ⟨toString⟩

/-- The id of the edge: source, target and tag joined by underscores. -/
def edgeId (r : Relationship) : String :=
  r.source.toString ++ "_" ++ r.target.toString ++ "_" ++ r.kind.tag

end Relationship

/-! ## The log -/

/-- Relationships, each in the place where it was first pushed. -/
structure RelationshipLog where
  /-- The relationships, oldest first. -/
  entries : List Relationship := []
deriving DecidableEq

namespace RelationshipLog

/-- The log without entries. -/
def empty : RelationshipLog := {}

/-- The number of entries. -/
def size (l : RelationshipLog) : Nat :=
  l.entries.length

/-- Whether the relationship is in the log. -/
def contains (l : RelationshipLog) (r : Relationship) : Bool :=
  decide (r ∈ l.entries)

/-- Whether pushing the relationship would append it: it is no loop and new. -/
def admits (l : RelationshipLog) (r : Relationship) : Bool :=
  !r.isLoop && !l.contains r

/-- Appends the relationship if the log admits it. -/
def push (l : RelationshipLog) (r : Relationship) : RelationshipLog :=
  if l.admits r then ⟨l.entries ++ [r]⟩ else l

/-- Pushes relationships one after the other. -/
def pushAll (l : RelationshipLog) (rs : List Relationship) : RelationshipLog :=
  rs.foldl push l

@[simp] theorem pushAll_nil (l : RelationshipLog) : l.pushAll [] = l := rfl

@[simp] theorem pushAll_cons (l : RelationshipLog) (r : Relationship) (rs : List Relationship) :
    l.pushAll (r :: rs) = (l.push r).pushAll rs := rfl

theorem pushAll_append (l : RelationshipLog) (rs qs : List Relationship) :
    l.pushAll (rs ++ qs) = (l.pushAll rs).pushAll qs :=
  List.foldl_append

theorem entries_push (l : RelationshipLog) (r : Relationship) :
    (l.push r).entries =
      if r.source ≠ r.target ∧ r ∉ l.entries then l.entries ++ [r] else l.entries := by
  unfold push admits contains Relationship.isLoop
  by_cases h₁ : r.source = r.target <;> by_cases h₂ : r ∈ l.entries <;> simp [h₁, h₂]

/-- Pushing keeps what is there. -/
theorem prefix_push (l : RelationshipLog) (r : Relationship) :
    l.entries <+: (l.push r).entries := by
  rw [entries_push]
  split
  · exact List.prefix_append _ _
  · exact List.prefix_rfl

/-- Pushing repeats no relationship. -/
theorem nodup_push {l : RelationshipLog} (r : Relationship) (h : l.entries.Nodup) :
    (l.push r).entries.Nodup := by
  rw [entries_push]
  split
  next hr =>
    refine List.nodup_append.2 ⟨h, by simp, ?_⟩
    intro a ha b hb
    rw [List.mem_singleton.1 hb]
    rintro rfl
    exact hr.2 ha
  next => exact h

end RelationshipLog

end ClassDiagram
