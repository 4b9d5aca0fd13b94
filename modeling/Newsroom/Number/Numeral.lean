import Newsroom.Number.Double

/-!
# Numerals

Numbers as they are written: a sign, digits before and after a point, and an exponent. Two
readings are given. `decimal?` and `whole?` read a number that stands alone as text, with a
leading plus and a missing part on one side of the point allowed. `Numeral` is the stricter form
of a number inside a JSON text, and `Numeral.toDouble?` its value as a double.

The value of a JSON numeral is computed in two roundings: digits are gathered into a 64-bit
counter, those that would overflow it do not count, and the counter is then multiplied or
divided by a power of ten. The result can differ from the nearest double in the last bit.
-/

namespace Newsroom

/-- The number that decimal digits stand for, after the digits read before. -/
def Digits.value (digits : List Char) (before : Nat) : Nat :=
  digits.foldl (fun n c => n * 10 + (c.toNat - '0'.toNat)) before

/-- Splits text after its leading ASCII digits. -/
def Digits.span (cs : List Char) : List Char × List Char :=
  (cs.takeWhile Char.isDigit, cs.dropWhile Char.isDigit)

/-- Splits an optional sign from text: whether it is a minus, and what follows. -/
def Sign.span : List Char → Bool × List Char
  | '-' :: cs => (true, cs)
  | '+' :: cs => (false, cs)
  | cs => (false, cs)

/-- Splits an optional minus from text: whether there is one, and what follows. -/
def Sign.minus : List Char → Bool × List Char
  | '-' :: cs => (true, cs)
  | cs => (false, cs)

/-- Whether an integer is one of the signed ones of the given number of bits. -/
def fitsSigned (bits : Nat) (n : Int) : Bool :=
  let limit : Int := twoTo (bits - 1)
  n < limit && -limit ≤ n

theorem fitsSigned_iff {n : Int} :
    fitsSigned 64 n = true ↔ -(twoTo 63 : Int) ≤ n ∧ n < twoTo 63 := by
  simp only [fitsSigned, Bool.and_eq_true, decide_eq_true_eq]
  exact and_comm

theorem fitsSigned_toInt (n : Int64) : fitsSigned 64 n.toInt = true :=
  fitsSigned_iff.2 ⟨Int64.le_toInt n, Int64.toInt_lt n⟩

/-- A whole number of JSON: a signed or an unsigned 64-bit one. -/
@[ext]
structure Whole where
  /-- The number. -/
  value : Int
  /-- It is no less than the least signed one. -/
  least : -(twoTo 63 : Int) ≤ value
  /-- It is no greater than the greatest unsigned one. -/
  greatest : value < twoTo 64
  deriving DecidableEq

namespace Whole

/-- The whole number with the given value, if it is in range. -/
def ofInt? (n : Int) : Option Whole :=
  if h : -(twoTo 63 : Int) ≤ n ∧ n < twoTo 64 then some ⟨n, h.1, h.2⟩ else none

/-- A signed number. -/
def ofInt64 (n : Int64) : Whole :=
  ⟨n.toInt, Int64.le_toInt n, Int.lt_trans (Int64.toInt_lt n) (by decide)⟩

/-- The number as a signed one, if it is in their range. -/
def toInt64? (n : Whole) : Option Int64 :=
  if fitsSigned 64 n.value then some (.ofInt n.value) else none

@[simp] theorem ofInt?_value (n : Whole) : ofInt? n.value = some n :=
  dif_pos ⟨n.least, n.greatest⟩

theorem ofInt64_ofInt {n : Whole} (h : fitsSigned 64 n.value = true) :
    ofInt64 (.ofInt n.value) = n := by
  obtain ⟨hleast, hgreatest⟩ := fitsSigned_iff.1 h
  exact Whole.ext (Int64.toInt_ofInt_of_le hleast hgreatest)

@[simp] theorem toInt64?_ofInt64 (n : Int64) : (ofInt64 n).toInt64? = some n := by
  show (if fitsSigned 64 n.toInt then some (Int64.ofInt n.toInt) else none) = some n
  rw [if_pos (fitsSigned_toInt n), Int64.ofInt_toInt]

end Whole

/-- A whole number written with ASCII digits and an optional sign, in the signed 64-bit range. -/
def whole? (cs : List Char) : Option Int64 :=
  let (negative, body) := Sign.span cs
  if body.isEmpty || !body.all Char.isDigit then none
  else
    let n : Int := Digits.value body 0
    let signed := if negative then -n else n
    if fitsSigned 64 signed then some (.ofInt signed) else none

/-- The exponent part of a number that stands alone: empty, or a letter, an optional sign and
digits up to the end. -/
def exponentPart? : List Char → Option Int
  | [] => some 0
  | c :: cs =>
    if c = 'e' || c = 'E' then
      let (negative, body) := Sign.span cs
      if body.isEmpty || !body.all Char.isDigit then none
      else
        let n : Int := Digits.value body 0
        some (if negative then -n else n)
    else none

/-- A number written as a decimal fraction with optional sign, point and exponent, rounded to the
nearest double. At least one digit stands before or after the point. -/
def decimal? (cs : List Char) : Option Double :=
  let (negative, body) := Sign.span cs
  let (before, rest) := Digits.span body
  let (after, rest) := match rest with
    | '.' :: rest => Digits.span rest
    | rest => ([], rest)
  if before.isEmpty && after.isEmpty then none
  else
    match exponentPart? rest with
    | none => none
    | some e => Double.ofDecimal? negative (Digits.value (before ++ after) 0) (e - after.length)

/-- A number as a JSON text writes it. -/
structure Numeral where
  /-- Whether a minus stands in front. -/
  negative : Bool
  /-- The digits before the point. -/
  before : List Char
  /-- The digits after the point, none if there is no point. -/
  after : List Char
  /-- The exponent, if there is one: whether it is negative, and its digits. -/
  exponent : Option (Bool × List Char)

namespace Numeral

/-- The text of the part from the point on. -/
def fractionChars (n : Numeral) : List Char :=
  if n.after.isEmpty then [] else '.' :: n.after

/-- The text of the exponent part, with a sign. -/
def exponentChars (n : Numeral) : List Char :=
  match n.exponent with
  | none => []
  | some (negative, digits) => 'e' :: (if negative then '-' else '+') :: digits

/-- The text of the numeral. -/
def chars (n : Numeral) : List Char :=
  (if n.negative then ['-'] else []) ++ (n.before ++ (n.fractionChars ++ n.exponentChars))

/-- The part from the point on: no point, or a point and at least one digit. -/
def fraction? : List Char → Option (List Char × List Char)
  | '.' :: cs =>
    match Digits.span cs with
    | ([], _) => none
    | (digits, rest) => some (digits, rest)
  | cs => some ([], cs)

/-- The exponent part: nothing, or a letter, an optional sign and at least one digit. -/
def exponent? : List Char → Option (Option (Bool × List Char) × List Char)
  | [] => some (none, [])
  | c :: cs =>
    if c = 'e' || c = 'E' then
      let (negative, body) := Sign.span cs
      match Digits.span body with
      | ([], _) => none
      | (digits, rest) => some (some (negative, digits), rest)
    else some (none, c :: cs)

/-- The digits before the point: a lone zero, or digits that do not start with one. -/
def integer? (cs : List Char) : Option (List Char × List Char) :=
  match Digits.span cs with
  | ([], _) => none
  | ('0' :: _ :: _, _) => none
  | (digits, rest) => some (digits, rest)

/-- Reads a numeral from the front of a text. -/
def scan (cs : List Char) : Option (Numeral × List Char) :=
  let (negative, body) := Sign.minus cs
  match integer? body with
  | none => none
  | some (before, rest) =>
    match fraction? rest with
    | none => none
    | some (after, rest) =>
      match exponent? rest with
      | none => none
      | some (exponent, rest) => some (⟨negative, before, after, exponent⟩, rest)

/-- The greatest number the digit counter holds. -/
def counterMax : Nat := twoTo 64 - 1

/-- Counts leading digits into a counter: the counter before the first digit that overflows it,
and the digits from there on. -/
def gather (counter : Nat) : List Char → Nat × List Char
  | [] => (counter, [])
  | c :: cs =>
    let next := counter * 10 + (c.toNat - '0'.toNat)
    if counterMax < next then (counter, c :: cs) else gather next cs

/-- The double nearest to ten to the power `k`. -/
def tenPower? (k : Nat) : Option Double := Double.ofRatio? false (tenTo k) 1

/-- `x * 10 ^ e`, by one multiplication or division for exponents up to 308. A smaller exponent
is worked off in steps of 308, three of which bring any counter to zero; a greater one is out of
range unless `x` is zero. -/
def scale? (x : Double) (e : Int) : Nat → Option Double
  | 0 => some (Double.zero x.negative)
  | steps + 1 =>
    if 308 < e then if x.isZero then some x else none
    else if 0 ≤ e then (tenPower? e.toNat).bind x.scaleUp?
    else if -308 ≤ e then (tenPower? (-e).toNat).bind x.scaleDown?
    else if x.isZero then some x
    else ((tenPower? 308).bind x.scaleDown?).bind fun y => scale? y (e + 308) steps

/-- The value of the numeral as a double, unless it is out of range. -/
def toDouble? (n : Numeral) : Option Double :=
  let (counter, dropped) := gather 0 n.before
  let (counter, rest) := gather counter n.after
  let place : Int := (dropped.length : Int) - ((n.after.length : Int) - rest.length)
  let x := (Double.ofRatio? n.negative counter 1).getD (Double.zero n.negative)
  match n.exponent with
  | none => scale? x place 4
  | some (negative, digits) =>
    let e := Digits.value digits 0
    if twoTo 31 - 1 < e then
      if counter ≠ 0 && !negative then none else some (Double.zero n.negative)
    else scale? x (if negative then place - e else place + e) 4

/-- The numeral as a whole number: no point, no exponent, not minus zero, and in range. -/
def toWhole? (n : Numeral) : Option Whole :=
  if n.after.isEmpty && n.exponent.isNone then
    let v := Digits.value n.before 0
    if n.negative then
      if v = 0 then none else Whole.ofInt? (-(v : Int))
    else Whole.ofInt? v
  else none

end Numeral

end Newsroom
