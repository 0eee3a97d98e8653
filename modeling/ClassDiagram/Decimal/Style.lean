import ClassDiagram.Decimal.Shortest

/-!
# Decimal texts of floating-point numbers

A style says how the digits of a number are set out: up to which size without
an exponent, and whether a whole number keeps a fraction.
-/

namespace ClassDiagram.Decimal

/-- How numbers are set out as text. -/
structure Style where
  /-- Which of two equally near decimals is taken. -/
  tie : Tie
  /-- Whether a number is set out without an exponent if its digits start
  right behind the given decimal place. -/
  isPositional : Int → Bool
  /-- Whether a whole number gets a zero behind the point. -/
  keepsFraction : Bool

/-- The digits with the point after the given number of them, which may be
negative or beyond the digits. -/
def positional (keepsFraction : Bool) (digits : List Char) (point : Int) : List Char :=
  if point ≤ 0 then
    '0' :: '.' :: List.replicate (-point).toNat '0' ++ digits
  else if point.toNat < digits.length then
    digits.take point.toNat ++ '.' :: digits.drop point.toNat
  else
    digits ++ List.replicate (point.toNat - digits.length) '0' ++
      if keepsFraction then ['.', '0'] else []

/-- The digits with the point after the first, and an exponent with its sign. -/
def scientific (digits : List Char) (point : Int) : List Char :=
  let lead := match digits with
    | [] => []
    | [d] => [d]
    | d :: ds => d :: '.' :: ds
  let exponent := point - 1
  lead ++ 'e' :: (if exponent < 0 then '-' else '+') :: Nat.toDigits 10 exponent.natAbs

/-- A decimal in a style. -/
def Style.write (style : Style) (d : Dec) : List Char :=
  let digits := Nat.toDigits 10 d.digits
  let point : Int := digits.length + d.exponent
  if style.isPositional point then positional style.keepsFraction digits point
  else scientific digits point

/-- A floating-point number in a style. -/
def Style.writeFloat (style : Style) (x : Float) : List Char :=
  if x.isNaN then ['N', 'a', 'N']
  else
    let bits := x.toBits
    let sign := if bits >>> 63 == 1 then ['-'] else []
    let size :=
      if x.isInf then ['i', 'n', 'f']
      else if bits <<< 1 == 0 then positional style.keepsFraction ['0'] 1
      else style.write ((Binary.ofBits bits).shortest style.tie)
    sign ++ size

end ClassDiagram.Decimal
