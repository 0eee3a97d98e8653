import ClassDiagram.Files.Walk
import ClassDiagram.Ignore.Rule

/-!
# Scopes of ignore files

The ignore files of a directory apply to everything below it.  Three kinds of
files are asked, each from the nearest directory up: ignore files proper, then
those of the repository, then the repository's own list of exclusions.  The
latter two count only inside a repository, and only up to its top.  The first
file with a rule for a path decides; a path without a rule is ignored if its
name starts with a dot.
-/

namespace ClassDiagram.Ignore

open Files

/-- The rules that a directory adds for what is below it. -/
structure Scope where
  /-- The names that lead from the directory to the place that is looked at. -/
  trail : List Name
  /-- The rules of its ignore file. -/
  own : List Rule
  /-- The rules of its ignore file for the repository. -/
  shared : List Rule
  /-- The rules of its list of exclusions. -/
  excluded : List Rule
  /-- Whether the directory is the top of a repository. -/
  isRepository : Bool

namespace Scope

/-- The scope of the directory that names lead to. -/
def ofDirectory (tree : Node) (place : List Name) : Scope :=
  let rules (names : List String) : List Rule :=
    match tree.bytesOf? (place ++ names.map String.toList) with
    | some content => rulesOf content
    | none => []
  let present (name : String) : Bool := (tree.follow? (place ++ [name.toList])).isSome
  { trail := []
    own := rules [".ignore"]
    shared := rules [".gitignore"]
    excluded := rules [".git", "info", "exclude"]
    isRepository := present ".git" || present ".jj" }

/-- The scope as seen from a subdirectory of the place. -/
def into (scope : Scope) (name : Name) : Scope :=
  { scope with trail := scope.trail ++ [name] }

/-- The bytes of a path given by its names. -/
def pathBytes (names : List Name) : List UInt8 :=
  Text.utf8Bytes ((['/'] : List Char).intercalate names)

/-- What rules of the scope say about an entry of the place. -/
def verdict? (scope : Scope) (rules : List Rule) (name : Name) (isDirectory : Bool) :
    Option Verdict :=
  Ignore.verdict? rules (pathBytes (scope.trail ++ [name])) isDirectory

end Scope

/-- The scopes up to the top of the nearest repository. -/
def withinRepository : List Scope → List Scope
  | [] => []
  | scope :: scopes => scope :: if scope.isRepository then [] else withinRepository scopes

/-- What the scopes around a place, nearest first, say about one of its entries. -/
def scopesVerdict? (scopes : List Scope) (name : Name) (isDirectory : Bool) : Option Verdict :=
  let asked := if scopes.any Scope.isRepository then withinRepository scopes else []
  (scopes.findSome? fun s => s.verdict? s.own name isDirectory) <|>
    (asked.findSome? fun s => s.verdict? s.shared name isDirectory) <|>
    (asked.findSome? fun s => s.verdict? s.excluded name isDirectory)

/-- A place in a tree, and the scopes around it, nearest first. -/
structure Place where
  names : List Name
  scopes : List Scope

/-- The place that a name leads to from another. -/
def Place.enter (tree : Node) (place : Place) (name : Name) : Place :=
  let names := place.names ++ [name]
  ⟨names, .ofDirectory tree names :: place.scopes.map (·.into name)⟩

/-- The place that names lead to from the top of the tree. -/
def Place.ofNames (tree : Node) (names : List Name) : Place :=
  names.foldl (Place.enter tree) ⟨[], [.ofDirectory tree []]⟩

/-- Whether an entry of a place is kept. -/
def Place.keeps (place : Place) (name : Name) (isDirectory : Bool) : Bool :=
  match scopesVerdict? place.scopes name isDirectory with
  | some .ignore => false
  | some .keep => true
  | none => name.head? != some '.'

/-- The filter that respects the ignore files of a tree. -/
def filter (tree : Node) : EntryFilter Place where
  enter := Place.enter tree
  admits := Place.keeps

end ClassDiagram.Ignore
