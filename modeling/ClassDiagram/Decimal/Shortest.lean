/-!
# Shortest decimals of binary numbers

A binary floating-point value stands for all reals that round to it.  This
module finds the decimal with the fewest digits among them, the nearest to the
value if several have that many digits, by exact arithmetic on naturals.
-/

namespace ClassDiagram.Decimal

/-! ## Binary values -/

/-- A finite value without its sign: `mantissa * 2 ^ exponent`. -/
structure Binary where
  mantissa : Nat
  exponent : Int
  /-- Whether the next value below is at half the distance of the one above. -/
  narrowBelow : Bool
deriving DecidableEq, Repr

/-- The finite value, less its sign, that the bits encode. -/
def Binary.ofBits (bits : UInt64) : Binary :=
  let biased := ((bits >>> 52) &&& 0x7ff).toNat
  let fraction := (bits &&& 0xfffffffffffff).toNat
  if biased = 0 then ⟨fraction, -1074, false⟩
  else ⟨Nat.pow 2 52 + fraction, (biased : Int) - 1075, fraction == 0 && decide (biased > 1)⟩

/-- A decimal: `digits * 10 ^ exponent`. -/
structure Dec where
  digits : Nat
  exponent : Int
deriving DecidableEq, Repr

/-- Compares `a * 10 ^ i` with `m * 2 ^ j`. -/
def compareScaled (a : Nat) (i : Int) (m : Nat) (j : Int) : Ordering :=
  compare (a * Nat.pow 10 i.toNat * Nat.pow 2 (-j).toNat)
    (m * Nat.pow 2 j.toNat * Nat.pow 10 (-i).toNat)

/-- Whether the decimal is one of the reals that round to the value: it lies
between the midpoints towards the neighbouring values, and a midpoint itself
rounds to the value with the even mantissa. -/
def Binary.readsBack (x : Binary) (d : Dec) : Bool :=
  let low := if x.narrowBelow then 4 * x.mantissa - 1 else 4 * x.mantissa - 2
  let high := 4 * x.mantissa + 2
  let even := x.mantissa % 2 == 0
  let fromLow := compareScaled d.digits d.exponent low (x.exponent - 2)
  let toHigh := compareScaled d.digits d.exponent high (x.exponent - 2)
  (fromLow == .gt || (even && fromLow == .eq)) && (toHigh == .lt || (even && toHigh == .eq))

/-! ## The search -/

/-- Which of two equally near decimals is taken. -/
inductive Tie
  /-- The one whose last digit is even. -/
  | even
  /-- The greater one. -/
  | up
deriving DecidableEq, Repr

/-- The greatest decimal on the grid `10 ^ exponent` that is not above the value. -/
def Binary.floorOn (x : Binary) (exponent : Int) : Dec :=
  let above := x.mantissa * Nat.pow 2 x.exponent.toNat * Nat.pow 10 (-exponent).toNat
  let below := Nat.pow 2 (-x.exponent).toNat * Nat.pow 10 exponent.toNat
  ⟨above / below, exponent⟩

/-- Whether the lower of two neighbours on a grid is taken rather than the
upper one, by their distance from the value. -/
def Binary.prefersLower (x : Binary) (tie : Tie) (lower : Dec) : Bool :=
  match compareScaled (2 * lower.digits + 1) lower.exponent x.mantissa (x.exponent + 1) with
  | .gt => true
  | .lt => false
  | .eq => match tie with
    | .even => lower.digits % 2 == 0
    | .up => false

/-- The decimal on the grid `10 ^ exponent` that reads back as the value. -/
def Binary.onGrid? (x : Binary) (tie : Tie) (exponent : Int) : Option Dec :=
  let lower := x.floorOn exponent
  let upper : Dec := ⟨lower.digits + 1, exponent⟩
  match x.readsBack lower, x.readsBack upper with
  | true, true => some (if x.prefersLower tie lower then lower else upper)
  | true, false => some lower
  | false, true => some upper
  | false, false => none

/-- The least power of ten above the value, looked for from the given one on. -/
def Binary.scaleFrom (x : Binary) : Nat → Int → Int
  | 0, k => k
  | fuel + 1, k =>
      if compareScaled 1 k x.mantissa x.exponent == .gt then k else x.scaleFrom fuel (k + 1)

/-- The least `k` with the value below `10 ^ k`. -/
def Binary.scale (x : Binary) : Int :=
  let log2 : Int := x.exponent + (Nat.log2 x.mantissa : Int)
  x.scaleFrom 4 (log2 * 30103 / 100000 - 1)

/-- The first hit on the grids that allow the given number of digits or more. -/
def Binary.search (x : Binary) (tie : Tie) (scale : Int) : Nat → Nat → Option Dec
  | 0, _ => none
  | fuel + 1, digits =>
      match x.onGrid? tie (scale - digits) with
      | some d => some d
      | none => x.search tie scale fuel (digits + 1)

/-- A decimal without zeros at the end of its digits. -/
def Dec.stripZeros : Nat → Dec → Dec
  | 0, d => d
  | fuel + 1, d =>
      if d.digits ≠ 0 ∧ d.digits % 10 = 0 then stripZeros fuel ⟨d.digits / 10, d.exponent + 1⟩
      else d

/-- The exact decimal of the value. -/
def Binary.exact (x : Binary) : Dec :=
  ⟨x.mantissa * Nat.pow 2 x.exponent.toNat * Nat.pow 5 (-x.exponent).toNat,
    if x.exponent < 0 then x.exponent else 0⟩

/-- The decimal with the fewest digits that reads back as the value, without
zeros at its end.  Seventeen digits are always enough. -/
def Binary.shortest (x : Binary) (tie : Tie) : Dec :=
  if x.mantissa = 0 then ⟨0, 0⟩
  else ((x.search tie x.scale 17 1).getD x.exact).stripZeros 20

end ClassDiagram.Decimal
