/-!
# Double-precision numbers

Finite numbers of the binary64 format, kept as a sign and the sixty-three bits below it. The
magnitude bits of finite numbers are exactly the numbers below `infinity`, and they ascend with
the number they stand for, so rounding to the nearest double is arithmetic on natural numbers.

Not-a-number and the infinities are not modelled: a result that would leave the finite range is
`none`.
-/

namespace Newsroom

/-- Two to the power `k`. The layout of doubles and the ranges of machine integers are made of
these powers. -/
def twoTo (k : Nat) : Nat := Nat.pow 2 k

/-- Ten to the power `k`, for the places of decimal numbers. -/
def tenTo (k : Nat) : Nat := Nat.pow 10 k

/-- A finite double-precision number. -/
structure Double where
  /-- Whether the number is negative; zero has both signs. -/
  negative : Bool
  /-- The exponent and fraction bits, read as one number. -/
  magnitude : Nat
  /-- The exponent field is not the one kept for infinities. -/
  finite : magnitude < 2047 * twoTo 52
  deriving DecidableEq

namespace Double

/-- The magnitude bits of infinity. -/
def infinity : Nat := 2047 * twoTo 52

/-- The zero of the given sign. -/
def zero (negative : Bool) : Double := ⟨negative, 0, by decide⟩

/-- The double with the given sign and magnitude bits, if they stand for a finite number. -/
def ofMagnitude? (negative : Bool) (magnitude : Nat) : Option Double :=
  if h : magnitude < infinity then some ⟨negative, magnitude, h⟩ else none

/-- Whether this is one of the two zeros. -/
def isZero (x : Double) : Bool := x.magnitude = 0

/-- The whole number `m` of the representation `m * 2 ^ q` of the absolute value. -/
def significand (x : Double) : Nat :=
  if x.magnitude < twoTo 52 then x.magnitude else twoTo 52 + x.magnitude % twoTo 52

/-- The exponent `q` of the representation `m * 2 ^ q` of the absolute value. -/
def exponent (x : Double) : Int :=
  if x.magnitude < twoTo 52 then -1074 else (x.magnitude / twoTo 52 : Nat) - 1075

/-- The absolute value as a quotient of natural numbers. -/
def ratio (x : Double) : Nat × Nat :=
  if 0 ≤ x.exponent then (x.significand * twoTo x.exponent.toNat, 1)
  else (x.significand, twoTo (-x.exponent).toNat)

/-- The whole number nearest to `num / den`; a half goes to the even neighbour. -/
def roundHalfEven (num den : Nat) : Nat :=
  let floor := num / den
  let rest := num % den
  if 2 * rest < den then floor
  else if den < 2 * rest then floor + 1
  else if floor % 2 = 0 then floor else floor + 1

/-- The largest `k` with `2 ^ k ≤ num / den`, for positive `num` and `den`. -/
def floorLog2 (num den : Nat) : Int :=
  let k : Int := (Nat.log2 num : Int) - Nat.log2 den
  if num * twoTo (-k).toNat < den * twoTo k.toNat then k - 1 else k

/-- The magnitude bits of the double nearest to `num / den`; numbers beyond the finite range
give `infinity` or more. -/
def nearestMagnitude (num den : Nat) : Nat :=
  if num = 0 then 0
  else
    let q : Int := max (floorLog2 num den - 52) (-1074)
    (q + 1074).toNat * twoTo 52 + roundHalfEven (num * twoTo (-q).toNat) (den * twoTo q.toNat)

/-- The double nearest to `num / den` with the given sign, if it is finite. -/
def ofRatio? (negative : Bool) (num den : Nat) : Option Double :=
  ofMagnitude? negative (nearestMagnitude num den)

/-- The double nearest to `digits * 10 ^ exponent` with the given sign, if it is finite. Numbers
of more than four hundred places before or after the point are decided without computing them. -/
def ofDecimal? (negative : Bool) (digits : Nat) (exponent : Int) : Option Double :=
  let places : Int := ((Nat.toDigits 10 digits).length : Int) + exponent
  if digits = 0 then some (zero negative)
  else if 400 < places then none
  else if places < -400 then some (zero negative)
  else ofRatio? negative (digits * tenTo exponent.toNat) (tenTo (-exponent).toNat)

/-- The product, rounded, with the sign of `x`; `y` counts by its absolute value. -/
def scaleUp? (x y : Double) : Option Double :=
  ofRatio? x.negative (x.ratio.1 * y.ratio.1) (x.ratio.2 * y.ratio.2)

/-- The quotient, rounded, with the sign of `x`; `y` counts by its absolute value. -/
def scaleDown? (x y : Double) : Option Double :=
  ofRatio? x.negative (x.ratio.1 * y.ratio.2) (x.ratio.2 * y.ratio.1)

/-- The number itself, when it is whole. -/
def toInt? (x : Double) : Option Int :=
  let (num, den) := x.ratio
  if num % den = 0 then
    let n : Int := (num / den : Nat)
    some (if x.negative then -n else n)
  else none

/-- Equality as numbers: the two zeros are equal, all else only to itself. -/
def same (x y : Double) : Bool :=
  x = y || x.isZero && y.isZero

end Double

end Newsroom
