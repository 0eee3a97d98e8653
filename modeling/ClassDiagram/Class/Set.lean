import ClassDiagram.Class.Name

/-!
# Sets of classes in the order of first sight

A class set remembers every class name once, in the order in which the names
were first inserted.

Main results:

- `ClassSet.mem_names_insert`, `ClassSet.nodup_insert` and
  `ClassSet.prefix_insert`: inserting adds just the name, repeats none, and
  keeps the names before in their places.
-/

namespace ClassDiagram

/-- Class names, each in the place of its first insertion. -/
structure ClassSet where
  /-- The names, oldest first. -/
  names : List ClassName := []
deriving DecidableEq

namespace ClassSet

/-- The set without names. -/
def empty : ClassSet := {}

/-- The number of names. -/
def size (s : ClassSet) : Nat :=
  s.names.length

/-- Whether a text is one of the names. -/
def contains (s : ClassSet) (text : List Char) : Bool :=
  s.names.any (·.letters == text)

/-- Whether inserting the name would add it. -/
def admits (s : ClassSet) (n : ClassName) : Bool :=
  !decide (n ∈ s.names)

/-- Adds the name at the end, unless it is there already. -/
def insert (s : ClassSet) (n : ClassName) : ClassSet :=
  if s.admits n then ⟨s.names ++ [n]⟩ else s

@[simp] theorem names_empty : empty.names = [] := rfl

theorem names_insert (s : ClassSet) (n : ClassName) :
    (s.insert n).names = if n ∈ s.names then s.names else s.names ++ [n] := by
  unfold insert admits
  by_cases h : n ∈ s.names <;> simp [h]

@[simp] theorem mem_names_insert (s : ClassSet) (n m : ClassName) :
    m ∈ (s.insert n).names ↔ m ∈ s.names ∨ m = n := by
  rw [names_insert]
  by_cases h : n ∈ s.names
  · simp only [h, if_true]
    exact ⟨Or.inl, fun hm => hm.elim id fun e => e ▸ h⟩
  · simp [h]

/-- Inserting repeats no name. -/
theorem nodup_insert {s : ClassSet} (n : ClassName) (h : s.names.Nodup) :
    (s.insert n).names.Nodup := by
  rw [names_insert]
  split
  next => exact h
  next hn =>
    refine List.nodup_append.2 ⟨h, by simp, ?_⟩
    intro a ha b hb
    rw [List.mem_singleton.1 hb]
    rintro rfl
    exact hn ha

/-- Inserting keeps the names before in their places. -/
theorem prefix_insert (s : ClassSet) (n : ClassName) : s.names <+: (s.insert n).names := by
  rw [names_insert]
  split
  · exact List.prefix_rfl
  · exact List.prefix_append _ _

end ClassSet

end ClassDiagram
