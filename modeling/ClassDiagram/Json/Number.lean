import ClassDiagram.Json.Reader

/-!
# Numbers of JSON texts

Reading a number gathers its digits in a significand of 64 bits until one more
would not fit; whole-number digits after that only raise the exponent, and
digits of the fraction are dropped.  The value is the significand times or
divided by a power of ten, in one operation of floating-point arithmetic.
-/

namespace ClassDiagram.Json

/-- A number as it is read: whole if it is written so and fits 64 bits. -/
inductive Number
  /-- A whole number that is not negative. -/
  | natural (value : Nat)
  /-- A whole number below zero, given by its size. -/
  | negative (size : Nat)
  /-- Any other number. -/
  | real (value : Float)

/-- The number as a floating-point value. -/
def Number.toFloat : Number → Float
  | natural value => value.toUInt64.toFloat
  | negative size => -size.toUInt64.toFloat
  | real value => value

/-- The number as something found in the place of something else. -/
def Number.found : Number → Found
  | natural value => .integer value
  | negative size => .integer (-(size : Int))
  | real value => .real value

/-! ## Digits -/

/-- The value of a decimal digit. -/
def digitValue (c : Char) : Nat :=
  c.toNat - '0'.toNat

/-- Whether the text goes on with a digit. -/
def startsWithDigit (left : List Char) : Bool :=
  left.head?.any Char.isDigit

/-- The text after its leading digits. -/
def dropDigits (left : List Char) : List Char :=
  left.dropWhile Char.isDigit

/-- What gathering digits gives. -/
structure Gathered where
  /-- The significand with the digits appended. -/
  significand : Nat
  /-- How many digits were appended. -/
  count : Nat
  /-- The text after them. -/
  rest : List Char

/-- Appends leading digits to a significand as long as it stays below a limit. -/
def gather (limit : Nat) (significand : Nat) : List Char → Gathered
  | [] => ⟨significand, 0, []⟩
  | c :: cs =>
      let appended := significand * 10 + digitValue c
      if c.isDigit && decide (appended < limit) then
        let more := gather limit appended cs
        { more with count := more.count + 1 }
      else ⟨significand, 0, c :: cs⟩

/-- One more than the greatest significand. -/
def significandLimit : Nat := Nat.pow 2 64

/-- One more than the greatest exponent that is read. -/
def exponentLimit : Nat := Nat.pow 2 31

/-! ## Values -/

/-- A power of ten. -/
def powerOfTen (exponent : Nat) : Float :=
  Float.ofScientific 1 false exponent

/-- The greatest exponent of a power of ten that is a finite number. -/
def greatestPower : Nat := 308

/-- A value divided by a power of ten, in steps if the power is too large. -/
def divideByPower (value : Float) (exponent : Nat) : Float :=
  if exponent ≤ greatestPower then value / powerOfTen exponent
  else if value == 0 then value
  else divideByPower (value / powerOfTen greatestPower) (exponent - greatestPower)
termination_by exponent
decreasing_by
  simp only [greatestPower] at *
  omega

/-- A significand scaled by a power of ten, unless it is too large. -/
def scaled? (significand : Nat) (exponent : Int) : Option Float :=
  let value := significand.toUInt64.toFloat
  if exponent < 0 then some (divideByPower value exponent.natAbs)
  else if exponent.toNat ≤ greatestPower then
    let product := value * powerOfTen exponent.toNat
    if product.isInf then none else some product
  else if value == 0 then some value
  else none

/-- A value with the sign of the number it belongs to. -/
def signed (isNegative : Bool) (value : Float) : Float :=
  if isNegative then -value else value

/-- Ends a number with its value. -/
def finish (isNegative : Bool) (significand : Nat) (exponent : Int) : Reader Number :=
  match scaled? significand exponent with
  | some value => return .real (signed isNegative value)
  | none => Reader.failBefore .numberOutOfRange

/-! ## Parts of a number -/

/-- Reads the digits of an exponent.  One that is too large to be kept makes
the number zero or too large. -/
def readExponentDigits (isNegative : Bool) (significand : Nat) (exponent : Int)
    (raises : Bool) : Reader Number := fun left =>
  let found := gather exponentLimit 0 left
  if startsWithDigit found.rest then
    if raises && significand != 0 then .error (.before .numberOutOfRange (found.rest.drop 1))
    else .ok (.real (signed isNegative 0), dropDigits found.rest)
  else
    let shift : Int := if raises then found.significand else -(found.significand : Int)
    finish isNegative significand (exponent + shift) found.rest

/-- Reads an exponent, after the letter that marks it. -/
def readExponent (isNegative : Bool) (significand : Nat) (exponent : Int) : Reader Number :=
  fun left =>
    let (raises, digits) := match left with
      | '+' :: cs => (true, cs)
      | '-' :: cs => (false, cs)
      | cs => (true, cs)
    match digits with
    | [] => .error (.before .endOfValue digits)
    | _ :: _ =>
        if startsWithDigit digits then
          readExponentDigits isNegative significand exponent raises digits
        else .error (.at .invalidNumber digits)

/-- Reads the exponent of a number, if it has one. -/
def readOptionalExponent (isNegative : Bool) (significand : Nat) (exponent : Int) :
    Reader Number := fun left =>
  match left with
  | 'e' :: cs | 'E' :: cs => readExponent isNegative significand exponent cs
  | cs => finish isNegative significand exponent cs

/-- Reads the fraction of a number, after the point. -/
def readFraction (isNegative : Bool) (significand : Nat) (exponent : Int) : Reader Number :=
  fun left =>
    if startsWithDigit left then
      let found := gather significandLimit significand left
      readOptionalExponent isNegative found.significand (exponent - found.count)
        (dropDigits found.rest)
    else
      match left with
      | [] => .error (.at .endOfValue left)
      | _ => .error (.at .invalidNumber left)

/-- Reads what follows the whole part of a number that fits 64 bits. -/
def readAfterWhole (isNegative : Bool) (significand : Nat) : Reader Number := fun left =>
  match left with
  | '.' :: cs => readFraction isNegative significand 0 cs
  | 'e' :: _ | 'E' :: _ => readOptionalExponent isNegative significand 0 left
  | cs =>
      if !isNegative then .ok (.natural significand, cs)
      else if significand = 0 ∨ Nat.pow 2 63 < significand then
        .ok (.real (-significand.toUInt64.toFloat), cs)
      else .ok (.negative significand, cs)

/-- Reads what follows a whole part whose digits do not all fit 64 bits. -/
def readAfterLong (isNegative : Bool) (significand : Nat) : Reader Number := fun left =>
  let exponent := (left.takeWhile Char.isDigit).length
  match dropDigits left with
  | '.' :: cs => readFraction isNegative significand exponent cs
  | cs => readOptionalExponent isNegative significand exponent cs

/-- Reads a number, after its sign. -/
def readUnsigned (isNegative : Bool) : Reader Number := fun left =>
  match left with
  | [] => .error (.before .endOfValue left)
  | '0' :: cs =>
      if startsWithDigit cs then .error (.at .invalidNumber cs)
      else readAfterWhole isNegative 0 cs
  | _ :: _ =>
      if startsWithDigit left then
        let found := gather significandLimit 0 left
        if startsWithDigit found.rest then readAfterLong isNegative found.significand found.rest
        else readAfterWhole isNegative found.significand found.rest
      else .error (.at .invalidNumber left)

/-- Reads a number. -/
def readNumber : Reader Number := fun left =>
  match left with
  | '-' :: cs => readUnsigned true cs
  | cs => readUnsigned false cs

/-! ## Numbers that are passed over -/

/-- Passes over an exponent, after the letter that marks it. -/
def skipExponent (left : List Char) : Except Fault (List Char) :=
  let digits := match left with
    | '+' :: cs | '-' :: cs => cs
    | cs => cs
  if startsWithDigit digits then .ok (dropDigits digits)
  else .error (.at .invalidNumber digits)

/-- Passes over the exponent of a number, if it has one. -/
def skipOptionalExponent (left : List Char) : Except Fault (List Char) :=
  match left with
  | 'e' :: cs | 'E' :: cs => skipExponent cs
  | cs => .ok cs

/-- Passes over what follows the whole part of a number. -/
def skipAfterWhole (left : List Char) : Except Fault (List Char) :=
  match left with
  | '.' :: cs =>
      if startsWithDigit cs then skipOptionalExponent (dropDigits cs)
      else .error (.at .invalidNumber cs)
  | cs => skipOptionalExponent cs

/-- Passes over a number, after its sign. -/
def skipUnsigned (left : List Char) : Except Fault (List Char) :=
  match left with
  | '0' :: cs =>
      if startsWithDigit cs then .error (.at .invalidNumber cs) else skipAfterWhole cs
  | cs =>
      if startsWithDigit cs then skipAfterWhole (dropDigits cs)
      else .error (.at .invalidNumber cs)

end ClassDiagram.Json
