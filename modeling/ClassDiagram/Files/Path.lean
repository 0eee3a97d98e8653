/-!
# Paths

A path is a text whose parts are separated by slashes.  Repeated and trailing
slashes and dots inside the path add no part, so texts that differ only in them
denote the same path; a leading slash and a leading dot are parts of their own.
Paths are ordered part by part.
-/

namespace ClassDiagram.Files

/-- One part of a path. -/
inductive Component
  /-- The slash at the start of an absolute path. -/
  | root
  /-- A dot at the start of a relative path. -/
  | here
  /-- Two dots. -/
  | up
  /-- The name of an entry. -/
  | name (letters : List Char)
deriving DecidableEq

/-- What orders the parts: the slash, the dot, the two dots, then the names by
their characters. -/
def Component.key : Component → List Nat
  | root => [0]
  | here => [1]
  | up => [2]
  | name letters => 3 :: letters.map Char.toNat

/-- The pieces of a text between its slashes. -/
def pieces (path : List Char) : List (List Char) :=
  path.splitOn '/'

/-- The part that a piece adds to a path it does not start. -/
def Component.ofPiece? : List Char → Option Component
  | [] => none
  | ['.'] => none
  | ['.', '.'] => some up
  | letters => some (name letters)

/-- The parts of a path. -/
def components (path : List Char) : List Component :=
  let parts := (pieces path).filterMap Component.ofPiece?
  match path with
  | '/' :: _ => .root :: parts
  | ['.'] => .here :: parts
  | '.' :: '/' :: _ => .here :: parts
  | _ => parts

/-- A path followed by a relative one. -/
def join (path rest : List Char) : List Char :=
  match rest with
  | '/' :: _ => rest
  | _ => if path.getLast?.all (· == '/') then path ++ rest else path ++ '/' :: rest

/-- Whether a path starts with a slash. -/
def isAbsolute (path : List Char) : Bool :=
  path.head? == some '/'

/-- The name of the entry that a path leads to, if its last part is a name. -/
def fileName? (path : List Char) : Option (List Char) :=
  match (components path).getLast? with
  | some (.name letters) => some letters
  | _ => none

end ClassDiagram.Files
