import ClassDiagram.Files.Tree
import ClassDiagram.Source.Location

/-!
# What can go wrong with sources

Enumerating or reading source units fails for a reason of the file system or
for one of the provider's own.
-/

namespace ClassDiagram

/-- Why source units cannot be enumerated, or one of them not be read. -/
inductive SourceError
  /-- The file system refused. -/
  | file (fault : FileFault)
  /-- No readable unit is held under the number. -/
  | unreadable (location : Location)
  /-- The location is none of units in memory. -/
  | notInMemory (location : Location)
  /-- The location is none of files. -/
  | notAFile (location : Location)
  /-- The provider gives a reason of its own. -/
  | refused (reason : String)

namespace SourceError

/-- The error in words. -/
def message : SourceError → String
  | file fault => "IO error: " ++ fault.message
  | unreadable location => "Source error: unit " ++ location.toString ++ " is unreadable"
  | notInMemory location =>
      "Source error: " ++ location.toString ++ " is not an in-memory location"
  | notAFile location =>
      "Source error: " ++ location.toString ++ " is not a filesystem location"
  | refused reason => "Source error: " ++ reason

end SourceError

end ClassDiagram
