import ClassDiagram.Decimal.Style
import ClassDiagram.Text.Quoted
import ClassDiagram.Text.Utf8

/-!
# Faults of JSON documents

A document can be refused because its text is no JSON or because its values are
not the expected ones.  Every fault has a place in the text, which is kept as
the number of bytes left behind it until the whole text is at hand; then it
turns into a line and a column.
-/

namespace ClassDiagram.Json

open Text

/-! ## Causes -/

/-- What was found in the place of something else. -/
inductive Found
  | null
  | boolean (value : Bool)
  | integer (value : Int)
  | real (value : Float)
  | string (value : String)
  | sequence
  | map

/-- Numbers in messages: without an exponent from `1e-5` up to `1e16`, and
always with a point or an exponent. -/
def messageNumber : Decimal.Style where
  tie := .even
  isPositional := fun point => decide (-4 ≤ point) && decide (point ≤ 16)
  keepsFraction := true

/-- The name of something between backticks. -/
def ticked (name : String) : String :=
  "\x60" ++ name ++ "\x60"

/-- What was found, in words. -/
def Found.message : Found → String
  | null => "null"
  | boolean value => "boolean " ++ ticked (if value then "true" else "false")
  | integer value => "integer " ++ ticked (Int.repr value)
  | real value => "floating point " ++ ticked (String.ofList (messageNumber.writeFloat value))
  | string value => "string " ++ quoted value
  | sequence => "sequence"
  | map => "map"

/-- Why a document is refused. -/
inductive Cause
  | endOfValue
  | endOfString
  | endOfList
  | endOfObject
  | expectedValue
  | expectedIdent
  | expectedColon
  | expectedCommaOrBracket
  | expectedCommaOrBrace
  | keyNotString
  | trailingComma
  | trailingCharacters
  | invalidNumber
  | numberOutOfRange
  | invalidEscape
  | loneSurrogate
  | brokenSurrogatePair
  | controlCharacter
  | invalidType (found : Found) (expected : String)
  | invalidValue (found : Found) (expected : String)
  | invalidLength (length : Nat) (expected : String)
  | unknownVariant (tag : String) (expected : String)
  | missingField (key : String)
  | duplicateField (key : String)

/-- The cause in words. -/
def Cause.message : Cause → String
  | endOfValue => "EOF while parsing a value"
  | endOfString => "EOF while parsing a string"
  | endOfList => "EOF while parsing a list"
  | endOfObject => "EOF while parsing an object"
  | expectedValue => "expected value"
  | expectedIdent => "expected ident"
  | expectedColon => "expected " ++ ticked ":"
  | expectedCommaOrBracket => "expected " ++ ticked "," ++ " or " ++ ticked "]"
  | expectedCommaOrBrace => "expected " ++ ticked "," ++ " or " ++ ticked "\x7d"
  | keyNotString => "key must be a string"
  | trailingComma => "trailing comma"
  | trailingCharacters => "trailing characters"
  | invalidNumber => "invalid number"
  | numberOutOfRange => "number out of range"
  | invalidEscape => "invalid escape"
  | loneSurrogate => "lone leading surrogate in hex escape"
  | brokenSurrogatePair => "unexpected end of hex escape"
  | controlCharacter => "control character (\\u0000-\\u001F) found while parsing a string"
  | invalidType found expected => "invalid type: " ++ found.message ++ ", expected " ++ expected
  | invalidValue found expected => "invalid value: " ++ found.message ++ ", expected " ++ expected
  | invalidLength length expected =>
      "invalid length " ++ Nat.repr length ++ ", expected " ++ expected
  | unknownVariant tag expected => "unknown variant " ++ ticked tag ++ ", expected " ++ expected
  | missingField key => "missing field " ++ ticked key
  | duplicateField key => "duplicate field " ++ ticked key

/-! ## Places -/

/-- A cause and its place, as the number of bytes of the text behind it. -/
structure Fault where
  cause : Cause
  bytesLeft : Nat

/-- A fault before what is left of the text. -/
def Fault.before (cause : Cause) (left : List Char) : Fault :=
  ⟨cause, byteLength left⟩

/-- A fault at the first byte of what is left of the text, if anything is. -/
def Fault.at (cause : Cause) (left : List Char) : Fault :=
  ⟨cause, byteLength left - 1⟩

/-- A fault with its line, counted from one, and its column in bytes. -/
structure Failure where
  cause : Cause
  line : Nat
  column : Nat

/-- The line and column behind the given bytes. -/
def placeBehind (bytes : List UInt8) : Nat × Nat :=
  let lines := bytes.splitOn 10
  (lines.length, (lines.getLastD []).length)

/-- The fault of a text with its line and column. -/
def Fault.locate (fault : Fault) (text : List Char) : Failure :=
  let bytes := utf8Bytes text
  let (line, column) := placeBehind (bytes.take (bytes.length - fault.bytesLeft))
  ⟨fault.cause, line, column⟩

/-- The failure in words. -/
def Failure.message (failure : Failure) : String :=
  "JSON error: " ++ failure.cause.message ++ " at line " ++ Nat.repr failure.line ++
    " column " ++ Nat.repr failure.column

end ClassDiagram.Json
