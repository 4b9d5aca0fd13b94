import Newsroom.Number.Numeral

/-!
# Shortest decimal text

A double is written with the fewest decimal digits that are read back as the same number; of
several such digit strings the one nearest to the number is taken, of two equally near the even
one. The search is exact arithmetic on natural numbers: all numbers that round to a double form
an interval, and a grid of decimals with `n` digits meets the interval exactly when one of the
number's two neighbours on the grid lies in it.
-/

namespace Newsroom

/-- A positive decimal `digits * 10 ^ exponent`. -/
structure Decimal where
  /-- The significant digits, read as one number. -/
  digits : Nat
  /-- The place of the last digit. -/
  exponent : Int
  deriving DecidableEq, Repr

namespace Decimal

/-- The decimal digits of a natural number, most significant first. -/
def digitsOf (n : Nat) : List Char := Nat.toDigits 10 n

/-- Drops zeros at the end of the digits, at most `fuel` of them. -/
def strip : Nat → Decimal → Decimal
  | 0, d => d
  | fuel + 1, d =>
    if d.digits ≠ 0 ∧ d.digits % 10 = 0 then strip fuel ⟨d.digits / 10, d.exponent + 1⟩ else d

end Decimal

namespace Double

/-- The interval of reals that round to a positive double, over the common denominator `unit`:
the number itself, the distance to its lower and to its upper end, and whether the ends belong
to it. -/
structure Interval where
  /-- The number, times `unit`. -/
  centre : Nat
  /-- The distance to the lower end, times `unit`. -/
  below : Nat
  /-- The distance to the upper end, times `unit`. -/
  above : Nat
  /-- The common denominator. -/
  unit : Nat
  /-- Whether the ends round to the number too. -/
  closed : Bool

/-- The interval of reals that round to the absolute value of `x`. Below a power of two doubles
lie twice as dense as above it. -/
def interval (x : Double) : Interval :=
  let up : Nat := twoTo x.exponent.toNat
  let dense : Bool := x.significand = twoTo 52 && twoTo 53 ≤ x.magnitude
  { centre := 4 * x.significand * up
    below := if dense then up else 2 * up
    above := 2 * up
    unit := 4 * twoTo (-x.exponent).toNat
    closed := x.significand % 2 = 0 }

/-- The least `j` from `start` on, among `fuel` candidates, with `den ≤ num * 10 ^ j`. -/
def leadingZeros (num den : Nat) : Nat → Nat → Nat
  | 0, start => start
  | fuel + 1, start =>
    if den ≤ num * tenTo start then start else leadingZeros num den fuel (start + 1)

/-- The largest `k` with `10 ^ k ≤ num / den`, for numbers of the double range. -/
def floorLog10 (num den : Nat) : Int :=
  if den ≤ num then ((Decimal.digitsOf (num / den)).length : Int) - 1
  else -(leadingZeros num den 400 1 : Nat)

namespace Interval

/-- Whether `candidate * 10 ^ place` lies in the interval. -/
def holds (i : Interval) (place : Int) (candidate : Nat) : Bool :=
  let mine := i.unit * tenTo place.toNat * candidate
  let scale := tenTo (-place).toNat
  let centre := i.centre * scale
  if mine ≤ centre then
    if i.closed then centre - mine ≤ i.below * scale else centre - mine < i.below * scale
  else
    if i.closed then mine - centre ≤ i.above * scale else mine - centre < i.above * scale

/-- The decimal with last place `place` that lies in the interval and is nearest to the centre,
if there is one. -/
def nearest? (i : Interval) (place : Int) : Option Decimal :=
  let num := i.centre * tenTo (-place).toNat
  let den := i.unit * tenTo place.toNat
  let floor := num / den
  let rest := num % den
  let low := i.holds place floor
  let high := i.holds place (floor + 1)
  let lowFirst := 2 * rest < den || 2 * rest = den && floor % 2 = 0
  if low && (lowFirst || !high) then some ⟨floor, place⟩
  else if high then some ⟨floor + 1, place⟩
  else none

/-- The first decimal found on the grids with `count`, `count + 1`, … digits, where the number
starts at place `top`; the last grid is taken as it is. -/
def search (i : Interval) (top : Int) : Nat → Nat → Decimal
  | 0, count =>
    ⟨i.centre * tenTo (count - 1 - top).toNat / (i.unit * tenTo (top - count + 1).toNat),
      top - count + 1⟩
  | fuel + 1, count =>
    match i.nearest? (top - count + 1) with
    | some d => d
    | none => search i top fuel (count + 1)

end Interval

/-- The shortest decimal that is read back as the absolute value of a number other than zero. -/
def shortest (x : Double) : Decimal :=
  let i := x.interval
  ((i.search (floorLog10 i.centre i.unit) 17 1).strip 20)

/-- How a number with a fraction or an exponent is laid out. -/
structure Layout where
  /-- The least exponent of the leading digit that is written without exponent part. -/
  least : Int
  /-- The greatest such exponent. -/
  greatest : Int

/-- Numbers from `0.00001` up to sixteen places before the point are written in full. -/
def Layout.json : Layout := ⟨-5, 15⟩

/-- The numeral of the positive decimal `d` with the given sign: digits around a point, with at
least one after it, or the leading digit, the others after a point, and an exponent. -/
def Layout.numeral (layout : Layout) (negative : Bool) (d : Decimal) : Numeral :=
  let ds := Decimal.digitsOf d.digits
  let e : Int := d.exponent + ds.length - 1
  if layout.least ≤ e ∧ e ≤ layout.greatest then
    if e < 0 then ⟨negative, ['0'], List.replicate (-e - 1).toNat '0' ++ ds, none⟩
    else
      let whole := (e + 1).toNat
      let padded := ds ++ List.replicate (whole - ds.length) '0'
      let fraction := padded.drop whole
      ⟨negative, padded.take whole, if fraction.isEmpty then ['0'] else fraction, none⟩
  else ⟨negative, ds.take 1, ds.drop 1, some (e < 0, Decimal.digitsOf e.natAbs)⟩

/-- The numeral of a double. -/
def numeral (x : Double) : Numeral :=
  if x.isZero then ⟨x.negative, ['0'], ['0'], none⟩
  else Layout.json.numeral x.negative x.shortest

end Double

/-- The numeral of a whole number. -/
def Numeral.ofInt (n : Int) : Numeral := ⟨n < 0, Decimal.digitsOf n.natAbs, [], none⟩

end Newsroom
