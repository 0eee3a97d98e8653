import ClassDiagram.Files.Walk
import ClassDiagram.Ignore.Scope
import ClassDiagram.Source.Config
import ClassDiagram.Source.Provider

/-!
# Workspaces

A workspace takes its source units from a file tree: the files below its root
whose names end with the suffix of its configuration, or the root itself if
that is such a file.
-/

namespace ClassDiagram

open Files

/-- A root in a file tree, and how source units are selected below it. -/
structure Workspace where
  /-- The file tree. -/
  tree : Node
  /-- The absolute path of the root. -/
  root : String
  /-- How source units are selected. -/
  config : Config

namespace Workspace

/-- Whether a file of the given name is a source unit. -/
def selects (w : Workspace) (name : Name) : Bool :=
  w.config.suffix.isSuffixOf name

/-- The files below the directory that names lead to, which the ignore files
keep if these are respected. -/
def files (w : Workspace) (place : List Name) (node : Node) : List (List Name) :=
  if w.config.respectIgnoreFiles then
    node.filesBelow (Ignore.filter w.tree) (Ignore.Place.ofNames w.tree place)
  else node.filesBelow .all ()

/-- The path of the file that names lead to from the root. -/
def pathOf (w : Workspace) (names : List Name) : String :=
  String.ofList (names.foldl Files.join w.root.toList)

/-- The names that lead to the source units from the root, which is itself one
if no names are needed. -/
def unitNames (w : Workspace) : Except FileFault (List (List Name)) := do
  let place ← w.tree.resolve w.root.toList
  match w.tree.at? place with
  | none => .error .notFound
  | some (.directory entries) =>
      return (w.files place (.directory entries)).filter fun names =>
        names.getLast?.any w.selects
  | some _ =>
      return if (fileName? w.root.toList).any w.selects then [[]] else []

/-- The locations of the source units. -/
def locate (w : Workspace) : Except SourceError (List Location) :=
  match w.unitNames with
  | .ok units => .ok (units.map fun names => .path (w.pathOf names))
  | .error fault => .error (.file fault)

/-- The text of the file at a location. -/
def read (w : Workspace) (location : Location) : Except SourceError String :=
  match location with
  | .path path => (w.tree.readText path.toList).mapError .file
  | .index _ => .error (.notAFile location)

/-- The workspace as a provider of source units. -/
def provider (w : Workspace) : Provider where
  locate := w.locate
  read := w.read
  noteworthy := fun locations => [.unitsLocated w.root locations.length]

end Workspace

end ClassDiagram
