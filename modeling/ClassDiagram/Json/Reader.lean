import ClassDiagram.Json.Fault

/-!
# Readers of JSON texts

A reader takes a value off the front of a text and leaves the rest, or reports
a fault.  This module has the readers for what stands between values: white
space, literal words, and the commas and brackets of arrays and objects.
-/

namespace ClassDiagram.Json

/-- Takes a value off the front of a text. -/
abbrev Reader (α : Type) := StateT (List Char) (Except Fault) α

namespace Reader

/-- Refuses what is left, with the place before it. -/
def failBefore (cause : Cause) : Reader α :=
  fun left => .error (.before cause left)

/-- Refuses what is left, with the place at its first byte. -/
def failAt (cause : Cause) : Reader α :=
  fun left => .error (.at cause left)

end Reader

/-- The white space of JSON. -/
def isSpace (c : Char) : Bool :=
  c == ' ' || c == '\n' || c == '\t' || c == '\r'

/-- The text after its leading white space. -/
def dropSpace (cs : List Char) : List Char :=
  cs.dropWhile isSpace

/-- Passes over white space and gives the character after it, which stays. -/
def peek? : Reader (Option Char) :=
  fun left => .ok ((dropSpace left).head?, dropSpace left)

/-- Passes over one character. -/
def skipChar : Reader Unit :=
  fun left => .ok ((), left.drop 1)

/-- Reads the remaining letters of a literal word. -/
def readWord : List Char → Reader Unit
  | [] => pure ()
  | letter :: letters => fun left =>
      match left with
      | [] => .error (.before .endOfValue left)
      | c :: cs => if c = letter then readWord letters cs else .error (.at .expectedIdent left)

/-! ## Arrays -/

/-- Passes to the next item of an array; `false` if the array ends. -/
def nextItem (first : Bool) : Reader Bool := do
  match ← peek? with
  | none => Reader.failAt .endOfList
  | some ']' => return false
  | some c =>
      if first then return true
      else if c = ',' then
        skipChar
        match ← peek? with
        | some ']' => Reader.failAt .trailingComma
        | none => Reader.failAt .endOfValue
        | some _ => return true
      else Reader.failAt .expectedCommaOrBracket

/-- Ends an array, and gives what is left also if it does not end here. -/
def closeArray (left : List Char) : Except Fault Unit × List Char :=
  match dropSpace left with
  | ']' :: cs => (.ok (), cs)
  | ',' :: cs =>
      let cs := dropSpace cs
      match cs with
      | ']' :: _ => (.error (.at .trailingComma cs), cs)
      | _ => (.error (.at .trailingCharacters cs), cs)
  | [] => (.error (.at .endOfList []), [])
  | cs => (.error (.at .trailingCharacters cs), cs)

/-! ## Objects -/

/-- Passes to the next key of an object; `false` if the object ends. -/
def nextKey (first : Bool) : Reader Bool := do
  match ← peek? with
  | none => Reader.failAt .endOfObject
  | some '}' => return false
  | some c =>
      if first then
        if c = '"' then return true else Reader.failAt .keyNotString
      else if c = ',' then
        skipChar
        match ← peek? with
        | some '"' => return true
        | some '}' => Reader.failAt .trailingComma
        | some _ => Reader.failAt .keyNotString
        | none => Reader.failAt .endOfValue
      else Reader.failAt .expectedCommaOrBrace

/-- Reads the colon between a key and its value. -/
def readColon : Reader Unit := do
  match ← peek? with
  | some ':' => skipChar
  | some _ => Reader.failAt .expectedColon
  | none => Reader.failAt .endOfObject

/-- Ends an object, and gives what is left also if it does not end here. -/
def closeObject (left : List Char) : Except Fault Unit × List Char :=
  match dropSpace left with
  | '}' :: cs => (.ok (), cs)
  | [] => (.error (.at .endOfObject []), [])
  | ',' :: cs => (.error (.at .trailingComma (',' :: cs)), ',' :: cs)
  | cs => (.error (.at .trailingCharacters cs), cs)

/-- Reads the content of brackets and then their end.  Content that has the
wrong shape is reported where the attempt to end the brackets stops. -/
def enclosed (close : List Char → Except Fault Unit × List Char)
    (content : Reader (Except Cause α)) : Reader α := fun left =>
  match content left with
  | .error fault => .error fault
  | .ok (.error cause, left) => .error (.before cause (close left).2)
  | .ok (.ok value, left) =>
      match close left with
      | (.ok (), left) => .ok (value, left)
      | (.error fault, _) => .error fault

end ClassDiagram.Json
