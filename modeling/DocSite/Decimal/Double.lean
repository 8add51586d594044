import DocSite.Text.Basic

/-!
# Numbers of double precision

A binary number has a significand of at most 53 bits and an exponent. This module rounds fractions
to the nearest such number, a tie going to the even significand, and finds for such a number the
decimal with the fewest digits that rounds to it. All of it is exact arithmetic on natural numbers.
-/

namespace DocSite.Decimal

/-- The number `significand * 2 ^ exponent`. -/
structure Double where
  /-- An integer below `2 ^ 53`. -/
  significand : Nat
  /-- The power of two, at least `-1074`. -/
  exponent : Int
  deriving DecidableEq, Repr

/-- The fraction `numerator / denominator` times a power of `base`. -/
def scale (base : Nat) (power : Int) (numerator denominator : Nat) : Nat × Nat :=
  if 0 ≤ power then (numerator * base.pow power.toNat, denominator)
  else (numerator, denominator * base.pow (-power).toNat)

/-- The integer nearest to a fraction; a tie goes to the even neighbour. -/
def roundHalfEven (numerator denominator : Nat) : Nat :=
  let low := numerator / denominator
  let rest := 2 * (numerator % denominator)
  if rest < denominator then low
  else if rest > denominator then low + 1
  else low + low % 2

namespace Double

/-- Zero. -/
def zero : Double := ⟨0, 0⟩

/-- The least significand of 53 bits. -/
def leastSignificand : Nat := Nat.pow 2 52

/-- The exponent that gives a fraction a significand of 53 bits, or the least exponent. -/
def exponentOf (numerator denominator : Nat) : Int :=
  let estimate : Int := (numerator.log2 : Int) - denominator.log2 - 52
  let (n, d) := scale 2 (-estimate) numerator denominator
  max (if n < leastSignificand * d then estimate - 1 else estimate) (-1074)

/-- The number nearest to a fraction, unless it is too large to have one. -/
def nearest? (numerator denominator : Nat) : Option Double :=
  if numerator = 0 then some zero
  else
    let exponent := exponentOf numerator denominator
    let (n, d) := scale 2 (-exponent) numerator denominator
    let significand := roundHalfEven n d
    if significand = 2 * leastSignificand then
      if exponent < 971 then some ⟨leastSignificand, exponent + 1⟩ else none
    else if 971 < exponent then none
    else some ⟨significand, exponent⟩

/-- The number as a fraction. -/
def fraction (number : Double) : Nat × Nat :=
  scale 2 number.exponent number.significand 1

/-- The number nearest to a product. -/
def mul? (left right : Double) : Option Double :=
  let (n, d) := left.fraction
  let (m, e) := right.fraction
  nearest? (n * m) (d * e)

/-- The number nearest to a quotient. -/
def div? (left right : Double) : Option Double :=
  let (n, d) := left.fraction
  let (m, e) := right.fraction
  nearest? (n * e) (d * m)

/-- The number nearest to `digits * 10 ^ power`, unless it is too large to have one. -/
def ofDecimal? (digits : Nat) (power : Int) : Option Double :=
  if digits = 0 then some zero
  else if 400 < power then none
  else if power < -400 - (digits.log2 : Int) then some zero
  else
    let (n, d) := scale 10 power digits 1
    nearest? n d

end Double

/-- A decimal number `digits * 10 ^ power`. -/
structure Digits where
  /-- The digits as a number. -/
  digits : Nat
  /-- The power of ten. -/
  power : Int
  deriving DecidableEq, Repr

/-- Whether a decimal lies between the halfway points around a number; these belong to the number
when its significand is even. -/
def roundsTo (number : Double) (decimal : Digits) : Bool :=
  let m := number.significand
  let below := if m = Double.leastSignificand ∧ -1074 < number.exponent then 4 * m - 1 else 4 * m - 2
  let above := 4 * m + 2
  let (n, d) := scale 10 decimal.power decimal.digits 1
  let (n, d) := scale 2 (2 - number.exponent) n d
  if m % 2 = 0 then decide (below * d ≤ n) && decide (n ≤ above * d)
  else decide (below * d < n) && decide (n < above * d)

/-- The power of ten above a fraction: the least one that is greater. -/
def magnitude (numerator denominator : Nat) : Int :=
  let estimate : Int := ((Nat.toDigits 10 numerator).length : Int)
    - (Nat.toDigits 10 denominator).length
  let (n, d) := scale 10 (-estimate) numerator denominator
  if n < d then estimate else estimate + 1

/-- The decimal with a certain power that is nearest to a number among those that round to it. -/
def onGrid? (number : Double) (power : Int) : Option Digits :=
  let (n, d) := number.fraction
  let (n, d) := scale 10 (-power) n d
  let low : Digits := ⟨n / d, power⟩
  let high : Digits := ⟨n / d + 1, power⟩
  match roundsTo number low, roundsTo number high with
  | false, false => none
  | true, false => some low
  | false, true => some high
  | true, true => if roundHalfEven n d = n / d then some low else some high

/-- The decimal with the fewest digits that rounds to a number. -/
def shortest (number : Double) : Digits :=
  if number.significand = 0 then ⟨0, 0⟩
  else
    let (n, d) := number.fraction
    let top := magnitude n d
    ((List.range 17).findSome? fun count : Nat => onGrid? number (top - 1 - (count : Int))).getD ⟨0, 0⟩

/-! ## Writing -/

/-- Drops the zeros at the end of a decimal's digits. -/
def Digits.text (decimal : Digits) : Text :=
  Text.dropEndWhile (· == '0') (Text.ofNat decimal.digits)

/-- The number of places before the point. -/
def Digits.point (decimal : Digits) : Int :=
  decimal.power + (Text.ofNat decimal.digits).length

/-- Digits with a point after the first `point` of them, and a digit on either side of it. -/
def positional (digits : Text) (point : Int) : Text :=
  if point ≤ 0 then "0.".toList ++ List.replicate (-point).toNat '0' ++ digits
  else
    let count := point.toNat
    if digits.length ≤ count then
      digits ++ List.replicate (count - digits.length) '0' ++ ".0".toList
    else digits.take count ++ '.' :: digits.drop count

/-- One digit before the point, the others after it, and a power of ten with its sign. -/
def scientific (digits : Text) (point : Int) : Text :=
  let power := point - 1
  let sign := if power < 0 then '-' else '+'
  digits.take 1 ++ (if digits.length ≤ 1 then [] else '.' :: digits.drop 1) ++
    'e' :: sign :: Text.ofNat power.natAbs

/-- A number in the fewest digits, always with a point. -/
def Double.plain (number : Double) : Text :=
  if number.significand = 0 then "0.0"
  else
    let decimal := shortest number
    positional decimal.text decimal.point

/-- A number in the fewest digits; below `10 ^ -5` and from `10 ^ 16` on with a power of ten. -/
def Double.compact (number : Double) : Text :=
  if number.significand = 0 then "0.0"
  else
    let decimal := shortest number
    let point := decimal.point
    if -5 < point ∧ point ≤ 16 then positional decimal.text point
    else scientific decimal.text point

end DocSite.Decimal
