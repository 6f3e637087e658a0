/-!
# Numbers in double precision

* `Double` is a finite number of 64 bits. All of them are whole multiples of the least positive one,
  so that `Double.units` counts it exactly.
* `Double.isNearest` tells the decimal numerals that are read as a given double: those that lie
  between the midpoints to its two neighbours.
* `Double.shortest` is the one of these that stands on the coarsest decimal grid, and so has the
  fewest digits.
-/

set_option autoImplicit false

namespace ChatEmbed

/-- The eleven bits that scale a double. -/
def Double.scaleBits (bits : UInt64) : Nat :=
  bits.toNat / Nat.pow 2 52 % Nat.pow 2 11

/-- A finite number in double precision, as its 64 bits: a sign, eleven bits of scale, and 52 bits
of fraction. -/
structure Double where
  bits : UInt64
  finite : Double.scaleBits bits < 2047
deriving DecidableEq, Repr

namespace Double

/-- The double of 64 bits, unless they stand for an infinity or for no number. -/
def ofBits? (bits : UInt64) : Option Double :=
  if h : scaleBits bits < 2047 then some ⟨bits, h⟩ else none

def isNegative (x : Double) : Bool :=
  Nat.pow 2 63 ≤ x.bits.toNat

/-- The power of two by which the significand counts, over that of the least doubles. -/
def scale (x : Double) : Nat :=
  scaleBits x.bits - 1

/-- The bits behind the leading one. -/
def fraction (x : Double) : Nat :=
  x.bits.toNat % Nat.pow 2 52

/-- The significant bits: a leading one and the fraction, but for the least doubles, which have the
fraction only. -/
def significand (x : Double) : Nat :=
  if scaleBits x.bits = 0 then x.fraction else Nat.pow 2 52 + x.fraction

/-- The magnitude, as a multiple of the least positive double `1 / 2 ^ 1074`. -/
def units (x : Double) : Nat :=
  x.significand * Nat.pow 2 x.scale

/-- Whether the number is zero; zero has a sign too. -/
def isZero (x : Double) : Bool :=
  x.significand = 0

/-! ## The decimal numerals of a double -/

/-- The number `digits * 10 ^ power`. -/
structure Numeral where
  digits : Nat
  power : Int
deriving DecidableEq, Repr

/-- The midpoint to the next larger magnitude, in quarters of a unit. -/
def upperMidpoint (x : Double) : Nat :=
  4 * x.units + 2 * Nat.pow 2 x.scale

/-- The midpoint to the next smaller magnitude, in quarters of a unit. Below a power of two the
neighbours are half as far apart. -/
def lowerMidpoint (x : Double) : Nat :=
  if x.fraction = 0 ∧ 0 < x.scale then 4 * x.units - Nat.pow 2 x.scale
  else 4 * x.units - 2 * Nat.pow 2 x.scale

/-- A count of quarters of a unit, on a scale that fits all numerals of a power. -/
def scaled (quarters : Nat) (power : Int) : Nat :=
  quarters * Nat.pow 10 (-power).toNat

/-- The numeral with one digit `1` and the given power, on the scale that fits this power. -/
def gridStep (power : Int) : Nat :=
  Nat.pow 10 power.toNat * Nat.pow 2 1076

/-- Whether a numeral is read as the magnitude of a double: it lies between the midpoints to the
neighbours. A midpoint belongs to the neighbour whose significand is even. -/
def isNearest (x : Double) (numeral : Numeral) : Bool :=
  let lower := scaled x.lowerMidpoint numeral.power
  let place := numeral.digits * gridStep numeral.power
  let upper := scaled x.upperMidpoint numeral.power
  if x.significand % 2 = 0 then lower ≤ place && place ≤ upper
  else lower < place && place < upper

/-- The two numerals of the given power between which a double lies, the closer one first. Of two
that are equally close the one with even digits comes first. -/
def around (x : Double) (power : Int) : List Numeral :=
  let value := scaled (4 * x.units) power
  let below := value / gridStep power
  let rest := value % gridStep power
  if 2 * rest < gridStep power ∨ (2 * rest = gridStep power ∧ below % 2 = 0) then
    [⟨below, power⟩, ⟨below + 1, power⟩]
  else [⟨below + 1, power⟩, ⟨below, power⟩]

/-- The powers of ten that the numerals of doubles can need, greatest first: all doubles lie below
`10 ^ 309`, and a step of `10 ^ -324` is shorter than the gap between any two doubles. -/
def powers : List Int :=
  (List.range 634).map fun n : Nat => 309 - (n : Int)

/-- The magnitude without any rounding. -/
def exactNumeral (x : Double) : Numeral :=
  ⟨x.units * Nat.pow 5 1074, -1074⟩

/-- The numeral with the fewest digits that is read as the magnitude of a double; of several with as
few digits, the closest. If any numeral of a power is read as the double, then so is one of the two
around it, so that the first power with a hit is the greatest one possible. -/
def shortest (x : Double) : Numeral :=
  (powers.findSome? fun power => (x.around power).find? x.isNearest).getD x.exactNumeral

end Double
end ChatEmbed
