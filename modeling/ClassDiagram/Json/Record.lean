import ClassDiagram.Json.Skip

/-!
# Typed values of JSON texts

Readers for values of a known type.  A value of another type is reported with
what was found: a scalar is read first, an array or object is not entered.
Records are read from objects, whose unknown members are passed over, or from
arrays of their fields in order.
-/

namespace ClassDiagram.Json

/-! ## Mismatches -/

/-- Reads the scalar at the front of a text, or sees the opening of an array or
object, as something found in the place of something else. -/
def readFound : Reader Found := fun left =>
  match left with
  | 'n' :: cs => (readWord ['u', 'l', 'l'] cs).map fun (_, rest) => (.null, rest)
  | 't' :: cs => (readWord ['r', 'u', 'e'] cs).map fun (_, rest) => (.boolean true, rest)
  | 'f' :: cs => (readWord ['a', 'l', 's', 'e'] cs).map fun (_, rest) => (.boolean false, rest)
  | '"' :: cs => (readText cs).map fun (text, rest) => (.string text, rest)
  | '[' :: _ => .ok (.sequence, left)
  | '{' :: _ => .ok (.map, left)
  | _ =>
      if left.head? = some '-' || startsWithDigit left then
        (readNumber left).map fun (number, rest) => (number.found, rest)
      else .error (.at .expectedValue left)

/-- Refuses the value at the front of a text because another was expected. -/
def refuse (expected : String) : Reader α := do
  let found ← readFound
  Reader.failBefore (.invalidType found expected)

/-! ## Scalars -/

/-- Reads a string. -/
def readString : Reader String := do
  match ← peek? with
  | none => Reader.failAt .endOfValue
  | some '"' => do skipChar; readText
  | some _ => refuse "a string"

/-- Reads a number, and takes from it what the given function accepts. -/
def readNumberAs (expected : String) (accept : Number → Except Cause α) : Reader α := do
  match ← peek? with
  | none => Reader.failAt .endOfValue
  | some c =>
      if c = '-' || c.isDigit then
        match accept (← readNumber) with
        | .ok value => return value
        | .error cause => Reader.failBefore cause
      else refuse expected

/-- Reads a floating-point number, which may be written as a whole one. -/
def readFloat : Reader Float :=
  readNumberAs "f64" fun number => .ok number.toFloat

/-- A whole number of 32 bits. -/
def Number.toWord : Number → Except Cause UInt32
  | natural value =>
      if value < UInt32.size then .ok (UInt32.ofNat value)
      else .error (.invalidValue (.integer value) "u32")
  | negative size => .error (.invalidValue (.integer (-(size : Int))) "u32")
  | real value => .error (.invalidType (.real value) "u32")

/-- Reads a whole number of 32 bits. -/
def readWord32 : Reader UInt32 :=
  readNumberAs "u32" Number.toWord

/-- Reads a null. -/
def readNull : Reader Unit := do
  match ← peek? with
  | none => Reader.failAt .endOfValue
  | some 'n' => do skipChar; readWord ['u', 'l', 'l']
  | some _ => refuse "unit"

/-- Reads a value that may be null. -/
def readOption (item : Reader α) : Reader (Option α) := do
  match ← peek? with
  | some 'n' => do skipChar; readWord ['u', 'l', 'l']; return none
  | _ => return some (← item)

/-! ## Tags -/

/-- Reads the characters of a tag and looks up what it stands for. -/
def readTagText (ofTag? : String → Option α) (expected : String) : Reader α := do
  let tag ← readText
  match ofTag? tag with
  | some value => return value
  | none => Reader.failBefore (.unknownVariant tag expected)

/-- Reads one of several tags: a string, or an object that has the tag as its
only key, with null as its value. -/
def readTag (ofTag? : String → Option α) (expected : String) : Reader α := do
  match ← peek? with
  | none => Reader.failAt .endOfValue
  | some '"' => do skipChar; readTagText ofTag? expected
  | some '{' =>
      skipChar
      match ← peek? with
      | some '"' =>
          skipChar
          let value ← readTagText ofTag? expected
          readColon
          readNull
          match ← peek? with
          | some '}' => do skipChar; return value
          | some _ => Reader.failBefore .expectedValue
          | none => Reader.failBefore .endOfObject
      | some '}' => Reader.failAt .expectedValue
      | some _ => Reader.failAt .keyNotString
      | none => Reader.failAt .endOfValue
  | some _ => Reader.failAt .expectedValue

/-! ## Sequences -/

/-- Reads the items of an array, after its opening.  The fuel bounds their number. -/
def readItems (item : Reader α) : Nat → Bool → Reader (List α)
  | 0, _ => Reader.failAt .expectedValue
  | fuel + 1, first => do
      if ← nextItem first then
        let value ← item
        return value :: (← readItems item fuel false)
      else return []

/-- Reads an array of items.  Every item takes at least one character. -/
def readList (item : Reader α) : Reader (List α) := do
  match ← peek? with
  | none => Reader.failAt .endOfValue
  | some '[' => do
      skipChar
      enclosed closeArray fun left =>
        (readItems item (left.length + 1) true left).map fun (values, rest) => (.ok values, rest)
  | some _ => refuse "a sequence"

/-! ## Records -/

/-- A field of a record: its key, whether it may be left out, and how its value
is read into a record. -/
structure Field (α : Type) where
  key : String
  isOptional : Bool := false
  read : α → Reader α

/-- How a record is read: its name in messages, the record that stands for
fields left out, and its fields in order. -/
structure Shape (α : Type) where
  name : String
  blank : α
  fields : List (Field α)

namespace Shape

/-- The record as something expected. -/
def expected (shape : Shape α) : String :=
  "struct " ++ shape.name

/-- The record as an array of the right length. -/
def expectedLength (shape : Shape α) : String :=
  let count := shape.fields.length
  shape.expected ++ " with " ++ Nat.repr count ++ (if count = 1 then " element" else " elements")

/-- Reads the given fields from the items of an array, the first of which is at
the given index. -/
def readInOrder (shape : Shape α) : List (Field α) → Nat → α → Reader (Except Cause α)
  | [], _, record => return .ok record
  | field :: fields, index, record => do
      if ← nextItem (index == 0) then
        readInOrder shape fields (index + 1) (← field.read record)
      else if field.isOptional then readInOrder shape fields (index + 1) record
      else return .error (.invalidLength index shape.expectedLength)

/-- The first field that has to be given and is not among the given keys. -/
def firstMissing? (shape : Shape α) (given : List String) : Option String :=
  (shape.fields.find? fun field => !field.isOptional && !given.contains field.key).map Field.key

/-- Reads the members of an object, given the keys that were read before.  The
fuel bounds the number of members. -/
def readMembers (shape : Shape α) : Nat → Bool → List String → α → Reader (Except Cause α)
  | 0, _, _, _ => Reader.failAt .expectedValue
  | fuel + 1, first, given, record => do
      if ← nextKey first then
        skipChar
        let key ← readText
        match shape.fields.find? (·.key == key) with
        | none =>
            readColon
            skipValue
            readMembers shape fuel false given record
        | some field =>
            if given.contains key then return .error (.duplicateField key)
            else
              readColon
              readMembers shape fuel false (key :: given) (← field.read record)
      else
        match shape.firstMissing? given with
        | some key => return .error (.missingField key)
        | none => return .ok record

/-- Reads a record.  Every member takes at least one character. -/
def read (shape : Shape α) : Reader α := do
  match ← peek? with
  | none => Reader.failAt .endOfValue
  | some '[' => do
      skipChar
      enclosed closeArray (shape.readInOrder shape.fields 0 shape.blank)
  | some '{' => do
      skipChar
      enclosed closeObject fun left =>
        shape.readMembers (left.length + 1) true [] shape.blank left
  | some _ => refuse shape.expected

end Shape

/-! ## Whole texts -/

/-- The value of a text that holds nothing else. -/
def readWhole (item : Reader α) (text : String) : Except Failure α :=
  let chars := text.toList
  let outcome := item chars >>= fun (value, rest) =>
    match dropSpace rest with
    | [] => .ok value
    | rest => .error (.at .trailingCharacters rest)
  outcome.mapError (·.locate chars)

end ClassDiagram.Json
