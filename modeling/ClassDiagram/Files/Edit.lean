import ClassDiagram.Files.Tree

/-!
# Changes to file trees

Writing files, making directories and links, and removing entries.  A change
that the tree does not admit leaves it as it is.
-/

namespace ClassDiagram.Files.Node

/-- The entries with one of them set, in its old place or as the last. -/
def setEntry (entries : List (Name × Node)) (name : Name) (node : Node) : List (Name × Node) :=
  if (entries.lookup name).isSome then
    entries.map fun (n, old) => if n = name then (n, node) else (n, old)
  else entries ++ [(name, node)]

/-- The tree with the node that names lead to replaced or added. -/
def put (new : Node) : List Name → Node → Node
  | [], _ => new
  | name :: names, directory entries =>
      directory (setEntry entries name (put new names ((entries.lookup name).getD empty)))
  | _, other => other

/-- The tree without the entry that names lead to. -/
def erase : List Name → Node → Node
  | [], tree => tree
  | [name], directory entries => directory (entries.filter fun (n, _) => n ≠ name)
  | name :: names, directory entries =>
      match entries.lookup name with
      | some node => directory (setEntry entries name (erase names node))
      | none => directory entries
  | _, other => other

/-- Makes the directories that are missing on the way along the pieces of a
path, and gives the place where it ends. -/
def makeDirectoriesFrom (tree : Node) (place : List Name) : List Name → Node × List Name
  | [] => (tree, place)
  | piece :: rest =>
      match tree.resolveFrom linkLimit place [piece] with
      | .ok place => tree.makeDirectoriesFrom place rest
      | .error .notFound =>
          (put empty (place ++ [piece]) tree).makeDirectoriesFrom (place ++ [piece]) rest
      | .error _ => (tree, place)

/-- Makes a directory, with those above it. -/
def makeDirectories (tree : Node) (path : List Char) : Node :=
  (tree.makeDirectoriesFrom [] (Files.pieces path)).1

/-- Sets the entry at a path, after making the directories above it. -/
def setAt (tree : Node) (path : List Char) (node : Node) : Node :=
  let pieces := Files.pieces path
  let (tree, place) := tree.makeDirectoriesFrom [] pieces.dropLast
  put node (place ++ [pieces.getLastD []]) tree

/-- Writes a file, through a link if the path leads to one. -/
def writeFile (tree : Node) (path : List Char) (content : List UInt8) : Node :=
  match tree.resolve path with
  | .ok place => put (file content) place tree
  | .error _ => tree.setAt path (file content)

/-- Makes a symbolic link. -/
def makeLink (tree : Node) (path target : List Char) : Node :=
  tree.setAt path (link target)

/-- Removes the entry at a path, with all that is in it. -/
def remove (tree : Node) (path : List Char) : Node :=
  let pieces := Files.pieces path
  match tree.resolveFrom linkLimit [] pieces.dropLast with
  | .ok place => erase (place ++ [pieces.getLastD []]) tree
  | .error _ => tree

end ClassDiagram.Files.Node
