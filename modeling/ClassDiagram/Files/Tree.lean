import ClassDiagram.Files.Path
import ClassDiagram.Text.Utf8

/-!
# File trees

A file tree holds files, directories and symbolic links.  Paths lead from its
top through directories and links to a place in it; this module resolves them,
and reads the files they lead to.

A link may lead anywhere, also to another link or back to itself, so the number
of links on the way to one place is limited.
-/

namespace ClassDiagram

/-- Reasons for which an access to a file tree is refused. -/
inductive FileFault
  | notFound
  | notADirectory
  | isADirectory
  | nameTooLong
  | tooManyLinks
  | notText
deriving DecidableEq, Repr

/-- The fault in words. -/
def FileFault.message : FileFault → String
  | notFound => "No such file or directory (os error 2)"
  | notADirectory => "Not a directory (os error 20)"
  | isADirectory => "Is a directory (os error 21)"
  | nameTooLong => "File name too long (os error 36)"
  | tooManyLinks => "Too many levels of symbolic links (os error 40)"
  | notText => "stream did not contain valid UTF-8"

namespace Files

/-- The name of an entry of a directory. -/
abbrev Name := List Char

/-- A node of a file tree. -/
inductive Node
  /-- A file with its bytes. -/
  | file (content : List UInt8)
  /-- A directory with its named entries. -/
  | directory (entries : List (Name × Node))
  /-- A symbolic link to a path. -/
  | link (target : List Char)

namespace Node

/-- The directory without entries. -/
def empty : Node := directory []

/-- Whether the node is a directory. -/
def isDirectory : Node → Bool
  | directory _ => true
  | _ => false

/-- The entry of the given name. -/
def entry? : Node → Name → Option Node
  | directory entries, name => entries.lookup name
  | _, _ => none

/-- The node that names lead to, one directory after the other and through no link. -/
def at? (node : Node) : List Name → Option Node
  | [] => some node
  | name :: names => (node.entry? name).bind (·.at? names)

/-! ## Resolving paths -/

/-- How many links may be followed on the way to one place. -/
def linkLimit : Nat := 40

/-- The greatest length of a name, in bytes. -/
def nameLimit : Nat := 255

/-- The length, in bytes, from which on a path is too long. -/
def pathLimit : Nat := 4096

/-- The names that lead to the place where the pieces of a path end, from the
place that the given names lead to. -/
def resolveFrom (tree : Node) (links : Nat) (place : List Name) (pieces : List Name) :
    Except FileFault (List Name) :=
  match pieces with
  | [] => .ok place
  | piece :: rest =>
      match tree.at? place with
      | some (directory entries) =>
          if piece = [] ∨ piece = ['.'] then tree.resolveFrom links place rest
          else if piece = ['.', '.'] then tree.resolveFrom links place.dropLast rest
          else if nameLimit < Text.byteLength piece then .error .nameTooLong
          else
            match entries.lookup piece with
            | none => .error .notFound
            | some (link target) =>
                match links with
                | 0 => .error .tooManyLinks
                | links + 1 =>
                    tree.resolveFrom links (if isAbsolute target then [] else place)
                      (Files.pieces target ++ rest)
            | some _ => tree.resolveFrom links (place ++ [piece]) rest
      | _ => .error .notADirectory
termination_by (links, pieces.length)

/-- The names that lead to the place of an absolute path, through no link. -/
def resolve (tree : Node) (path : List Char) : Except FileFault (List Name) :=
  if path = [] then .error .notFound
  else if pathLimit ≤ Text.byteLength path then .error .nameTooLong
  else tree.resolveFrom linkLimit [] (Files.pieces path)

/-- The node at an absolute path. -/
def find (tree : Node) (path : List Char) : Except FileFault Node := do
  match tree.at? (← tree.resolve path) with
  | some node => .ok node
  | none => .error .notFound

/-- The node that names lead to, through links if need be. -/
def follow? (tree : Node) (names : List Name) : Option Node :=
  match tree.resolveFrom linkLimit [] names with
  | .ok place => tree.at? place
  | .error _ => none

/-! ## Reading -/

/-- The text of the file at an absolute path. -/
def readText (tree : Node) (path : List Char) : Except FileFault String := do
  match ← tree.find path with
  | file content =>
      match Text.ofUtf8? content with
      | some text => .ok (String.ofList text)
      | none => .error .notText
  | _ => .error .isADirectory

/-- The bytes of the file that names lead to. -/
def bytesOf? (tree : Node) (names : List Name) : Option (List UInt8) :=
  match tree.follow? names with
  | some (file content) => some content
  | _ => none

end Node

end Files

end ClassDiagram
