import ClassDiagram.Files.Tree

/-!
# Walks through file trees

A walk lists the files below a directory.  The entries of each directory are
taken in the order of their names, and the files of a subdirectory come at its
place, so the list does not depend on the order in which a directory keeps its
entries.  Links are neither listed nor followed.  A filter decides which
entries are considered; a directory that it refuses is not entered.
-/

namespace ClassDiagram.Files

/-- Decides which entries a walk considers, by what it knows about a directory. -/
structure EntryFilter (σ : Type) where
  /-- What is known in the directory of the given name inside another. -/
  enter : σ → Name → σ
  /-- Whether the entry of the given name is considered; the flag says whether
  it is a directory. -/
  admits : σ → Name → Bool → Bool

/-- The filter that considers every entry. -/
def EntryFilter.all : EntryFilter Unit where
  enter := fun _ _ => ()
  admits := fun _ _ _ => true

/-- Whether the first name does not come after the second. -/
def nameLe (a b : Name) : Bool :=
  !decide (b.map Char.toNat < a.map Char.toNat)

/-- The lists that belong to names, joined in the order of the names. -/
def joinByName (lists : List (Name × List α)) : List α :=
  (lists.mergeSort fun a b => nameLe a.1 b.1).flatMap (·.2)

mutual

/-- The files below a node, each as the names that lead to it from there. -/
def Node.filesBelow (filter : EntryFilter σ) (here : σ) : Node → List (List Name)
  | .directory entries => joinByName (entriesBelow filter here entries)
  | _ => []

/-- The files at and below each of the entries of a directory. -/
def entriesBelow (filter : EntryFilter σ) (here : σ) :
    List (Name × Node) → List (Name × List (List Name))
  | [] => []
  | (name, node) :: entries =>
      let files := match node with
        | .file _ => if filter.admits here name false then [[name]] else []
        | .link _ => []
        | .directory inner =>
            if filter.admits here name true then
              (Node.filesBelow filter (filter.enter here name) (.directory inner)).map (name :: ·)
            else []
      (name, files) :: entriesBelow filter here entries

end

end ClassDiagram.Files
