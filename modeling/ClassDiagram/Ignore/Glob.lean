import ClassDiagram.Text.Utf8

/-!
# Globs

A glob is a pattern for relative paths.  A question mark stands for one byte
and a star for any number of bytes, but neither for a slash; two stars that
form a whole component stand for any number of components; brackets hold a
class of characters and braces alternatives.

Patterns are matched against the bytes of a path.  What is left of a path after
a part of the pattern is one of finitely many ends of the path, so matching
keeps the list of the ends that are possible.
-/

namespace ClassDiagram.Ignore

open Text

/-- A range of characters, ends included. -/
structure CharRange where
  first : Char
  last : Char
deriving DecidableEq, Repr

/-- A part of a glob. -/
inductive Token
  /-- A character that stands for itself. -/
  | literal (c : Char)
  /-- Any byte but a slash. -/
  | anyByte
  /-- Any bytes but slashes. -/
  | anyBytes
  /-- The directories above a name, of which there may be none. -/
  | leadingDirectories
  /-- A slash and whatever is below. -/
  | everythingBelow
  /-- A slash, or the directories between two slashes. -/
  | innerDirectories
  /-- One byte of a class, or one outside of it. -/
  | oneOf (negated : Bool) (ranges : List CharRange)
  /-- One of several globs. -/
  | alternatives (branches : List (List Token))

/-! ## Matching -/

/-- The byte of the slash. -/
def slash : UInt8 := 47

/-- Every end of a byte sequence, itself included. -/
def ends : List UInt8 → List (List UInt8)
  | [] => [[]]
  | b :: bs => (b :: bs) :: ends bs

/-- The ends that bytes other than slashes lead to. -/
def endsInComponent : List UInt8 → List (List UInt8)
  | [] => [[]]
  | b :: bs => (b :: bs) :: if b = slash then [] else endsInComponent bs

/-- The ends behind a slash. -/
def endsBehindSlash : List UInt8 → List (List UInt8)
  | [] => []
  | b :: bs => if b = slash then bs :: endsBehindSlash bs else endsBehindSlash bs

/-- Whether a byte belongs to a range.  A character of several bytes adds its
bytes one by one, and a range spans only the two bytes that face each other. -/
def CharRange.containsByte (r : CharRange) (b : UInt8) : Bool :=
  let first := String.utf8EncodeChar r.first
  let last := String.utf8EncodeChar r.last
  if r.first = r.last then first.contains b
  else
    first.dropLast.contains b || last.tail.contains b ||
      (decide (first.getLastD 0 ≤ b) && decide (b ≤ last.headD 0))

/-- Ends without repetition; ends of one sequence differ if their lengths do. -/
def distinct (rests : List (List UInt8)) : List (List UInt8) :=
  rests.foldr (fun rest kept => if kept.any (·.length == rest.length) then kept else rest :: kept) []

mutual

/-- Whether the part stands for nothing at all. -/
def Token.isVoid : Token → Bool
  | .alternatives branches => allVoid branches
  | _ => false

/-- Whether each part stands for nothing at all. -/
def isVoid : List Token → Bool
  | [] => true
  | token :: tokens => token.isVoid && isVoid tokens

/-- Whether each branch stands for nothing at all. -/
def allVoid : List (List Token) → Bool
  | [] => true
  | branch :: branches => isVoid branch && allVoid branches

end

mutual

/-- The ends that are possible after one part. -/
def Token.rests (token : Token) (path : List UInt8) : List (List UInt8) :=
  match token with
  | .literal c =>
      let bytes := String.utf8EncodeChar c
      if bytes.isPrefixOf path then [path.drop bytes.length] else []
  | .anyByte =>
      match path with
      | [] => []
      | b :: bs => if b = slash then [] else [bs]
  | .anyBytes => endsInComponent path
  | .leadingDirectories => path :: endsBehindSlash path
  | .everythingBelow =>
      match path with
      | [] => []
      | b :: bs => if b = slash then ends bs else []
  | .innerDirectories =>
      match path with
      | [] => []
      | b :: bs => if b = slash then bs :: endsBehindSlash bs else []
  | .oneOf negated ranges =>
      match path with
      | [] => []
      | b :: bs => if ranges.any (·.containsByte b) != negated then [bs] else []
  | .alternatives branches =>
      if allVoid branches then [path] else distinct (branchRests branches path)

/-- The ends that are possible after all parts. -/
def restsOf (tokens : List Token) (path : List UInt8) : List (List UInt8) :=
  match tokens with
  | [] => [path]
  | token :: tokens => distinct ((token.rests path).flatMap (restsOf tokens))

/-- The ends that are possible after one of the branches that stand for
something. -/
def branchRests (branches : List (List Token)) (path : List UInt8) : List (List UInt8) :=
  match branches with
  | [] => []
  | branch :: branches =>
      (if isVoid branch then [] else restsOf branch path) ++ branchRests branches path

end

/-- Whether the glob matches a whole path.  Two stars alone match every path. -/
def globMatches (tokens : List Token) (path : List UInt8) : Bool :=
  match tokens with
  | [.leadingDirectories] => true
  | tokens => (restsOf tokens path).any List.isEmpty

/-! ## Reading globs -/

/-- Alternatives that are being read: the branches that are complete, newest
first, and what stood before the brace, newest first. -/
structure Group where
  branches : List (List Token)
  before : List Token

/-- A glob that is being read. -/
structure Partial where
  /-- The parts of the current branch, newest first. -/
  current : List Token := []
  /-- The open braces, innermost first. -/
  groups : List Group := []
  /-- The character read last. -/
  last : Option Char := none
  /-- Whether an opening bracket stands for itself, because none is closed. -/
  bracketsLiteral : Bool := false

namespace Partial

/-- The glob with one more part. -/
def push (g : Partial) (token : Token) : Partial :=
  { g with current := token :: g.current }

/-- Two stars that are no component of their own. -/
def pushStars (g : Partial) : Partial :=
  (g.push .anyBytes).push .anyBytes

/-- Reads what follows two stars behind other parts.  Together with the slash
before them they stand for directories if they form a component. -/
def stars (g : Partial) (before : Option Char) (cs : List Char) : Partial × List Char :=
  let inGroup := !g.groups.isEmpty
  let startsComponent :=
    before == some '/' || (inGroup && (before == some ',' || before == some '{'))
  let joined (token : Token) : Partial :=
    match g.current with
    | .leadingDirectories :: _ | .everythingBelow :: _ => g
    | _ :: older => { g with current := token :: older }
    | [] => g.push token
  if !startsComponent then (g.pushStars, cs)
  else
    match cs with
    | [] => (joined .everythingBelow, cs)
    | '/' :: rest => ({ joined .innerDirectories with last := some '/' }, rest)
    | c :: _ =>
        if inGroup && (c == ',' || c == '}') then (joined .everythingBelow, cs)
        else (g.pushStars, cs)

/-- Reads what follows a star; the character before it is given. -/
def star (g : Partial) (before : Option Char) (cs : List Char) : Partial × List Char :=
  match cs with
  | '*' :: cs =>
      if g.current.isEmpty then
        match cs with
        | [] => (g.push .leadingDirectories, cs)
        | '/' :: rest => ({ g.push .leadingDirectories with last := some '/' }, rest)
        | _ => (g.pushStars, cs)
      else g.stars before cs
  | _ => (g.push .anyBytes, cs)

end Partial

/-- What reading a class of characters gives. -/
inductive ClassOutcome
  /-- The class, and the text after its bracket. -/
  | closed (ranges : List CharRange) (rest : List Char)
  /-- No bracket closes the class. -/
  | unclosed
  /-- The ends of a range are in the wrong order. -/
  | reversed

/-- Reads the ranges of a class, given those read before, newest first, and
whether a dash was read that makes the next character the end of a range. -/
def readRanges (ranges : List CharRange) (inRange : Bool) : List Char → ClassOutcome
  | [] => .unclosed
  | c :: cs =>
      if c = ']' ∧ ranges ≠ [] then
        .closed (if inRange then ⟨'-', '-'⟩ :: ranges else ranges) cs
      else
        match inRange, ranges with
        | true, range :: older =>
            if c < range.first then .reversed
            else readRanges (⟨range.first, c⟩ :: older) false cs
        | _, _ =>
            if c = '-' ∧ ranges ≠ [] then readRanges ranges true cs
            else readRanges (⟨c, c⟩ :: ranges) false cs

/-- Reads one part of a glob; there is none if the glob is malformed. -/
def Partial.step? (g : Partial) (c : Char) (cs : List Char) : Option (Partial × List Char) :=
  let before := g.last
  let g := { g with last := some c }
  match c with
  | '?' => some (g.push .anyByte, cs)
  | '*' => some (g.star before cs)
  | '{' => some ({ g with current := [], groups := ⟨[], g.current⟩ :: g.groups }, cs)
  | '}' =>
      match g.groups with
      | [] => none
      | group :: groups =>
          let branches := (g.current.reverse :: group.branches).reverse
          some ({ g with current := .alternatives branches :: group.before, groups := groups }, cs)
  | ',' =>
      match g.groups with
      | [] => some (g.push (.literal ','), cs)
      | group :: groups =>
          let group := { group with branches := g.current.reverse :: group.branches }
          some ({ g with current := [], groups := group :: groups }, cs)
  | '\\' =>
      match cs with
      | [] => none
      | c :: cs => some ({ g.push (.literal c) with last := some c }, cs)
  | '[' =>
      if g.bracketsLiteral then some (g.push (.literal '['), cs)
      else
        let (negated, inner) := match cs with
          | '!' :: inner | '^' :: inner => (true, inner)
          | _ => (false, cs)
        match readRanges [] false inner with
        | .closed ranges rest => some ({ g.push (.oneOf negated ranges) with last := some ']' }, rest)
        | .unclosed => some ({ g.push (.literal '[') with bracketsLiteral := true }, cs)
        | .reversed => none
  | c => some (g.push (.literal c), cs)

/-- Reads the parts of a glob.  The fuel bounds their number. -/
def readGlob? : Nat → Partial → List Char → Option (List Token)
  | _, g, [] => if g.groups.isEmpty then some g.current.reverse else none
  | 0, _, _ => none
  | fuel + 1, g, c :: cs => do
      let (g, cs) ← g.step? c cs
      readGlob? fuel g cs

/-- The glob that a text spells, unless it is malformed: a brace without its
partner, a range in the wrong order, or a backslash at the end. -/
def globOf? (text : List Char) : Option (List Token) :=
  readGlob? text.length {} text

end ClassDiagram.Ignore
