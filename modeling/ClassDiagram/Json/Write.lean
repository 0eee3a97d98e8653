/-!
# Writing JSON

JSON texts are put together from the texts of their parts, without white space.
A string is written between quotes, with short escapes where JSON has them and
code points for the other control characters.
-/

namespace ClassDiagram.Json

/-- A digit of the hexadecimal code of a control character. -/
def hexDigit (n : Nat) : Char :=
  Nat.digitChar n

/-- One character of a string as JSON writes it. -/
def escapedChar (c : Char) : List Char :=
  match c with
  | '"' => ['\\', '"']
  | '\\' => ['\\', '\\']
  | '\x08' => ['\\', 'b']
  | '\x0c' => ['\\', 'f']
  | '\n' => ['\\', 'n']
  | '\r' => ['\\', 'r']
  | '\t' => ['\\', 't']
  | c =>
      if c.toNat < 0x20 then
        ['\\', 'u', '0', '0', hexDigit (c.toNat / 16), hexDigit (c.toNat % 16)]
      else [c]

/-- The text of a string. -/
def writeString (s : String) : List Char :=
  '"' :: s.toList.flatMap escapedChar ++ ['"']

/-- The text of a natural number. -/
def writeNat (n : Nat) : List Char :=
  Nat.toDigits 10 n

/-- The texts with commas between them. -/
def withCommas : List (List Char) → List Char
  | [] => []
  | [item] => item
  | item :: items => item ++ ',' :: withCommas items

/-- The text of an array with the given items. -/
def writeArray (items : List (List Char)) : List Char :=
  '[' :: withCommas items ++ [']']

/-- The text of a member of an object. -/
def writeMember (key : String) (value : List Char) : List Char :=
  writeString key ++ ':' :: value

/-- The text of an object with the given members. -/
def writeObject (members : List (List Char)) : List Char :=
  '{' :: withCommas members ++ ['}']

end ClassDiagram.Json
