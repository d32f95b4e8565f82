import BucketGuard.Binary64

namespace BucketGuard

/-! The shortest decimal that reads back as a given number. A decimal of `count` digits near the
number is one of its two neighbours on a grid of powers of ten; the first grid with a neighbour that
reads back wins, and of two such neighbours the closer one. -/

-- Powers of plain numbers, whatever else is imported.
attribute [local instance (2000)] instPowNat

/-- The value `digits * 10^power`. -/
structure Decimal where
  digits : Nat
  power : Int
  deriving DecidableEq, Repr

namespace Decimal

def readsBackAs (decimal : Decimal) (significand : Nat) (exponent : Int) : Bool :=
  Binary64.ofDecimal false decimal.digits decimal.power = .finite false significand exponent

/-- The exact value of a finite number: a power of two below one is a power of five over a power of
ten. -/
def ofBinary (significand : Nat) (exponent : Int) : Decimal :=
  { digits := significand * 2 ^ exponent.toNat * 5 ^ (-exponent).toNat
    power := min exponent 0 }

/-- The number of decimal digits before the point of a positive fraction, negative where zeros
follow the point: the least power of ten above the fraction. -/
def pointOf (numerator denominator : Nat) : Int :=
  let guess : Int := ((numerator.log2 : Int) - denominator.log2) * 30103 / 100000 - 1
  let exceeds (point : Int) : Bool :=
    numerator * 10 ^ (-point).toNat < denominator * 10 ^ point.toNat
  if exceeds guess then guess
  else if exceeds (guess + 1) then guess + 1
  else if exceeds (guess + 2) then guess + 2
  else guess + 3

/-- The neighbours of a fraction on the grid of one power of ten, the closer one first and the even
one where both are equally close. -/
def neighbours (numerator denominator : Nat) (power : Int) : List Decimal :=
  let top := numerator * 10 ^ (-power).toNat
  let bottom := denominator * 10 ^ power.toNat
  let floor := top / bottom
  let twice := 2 * (top % bottom)
  let low : Decimal := { digits := floor, power }
  let high : Decimal := { digits := floor + 1, power }
  if twice < bottom ∨ (twice = bottom ∧ floor % 2 = 0) then [low, high] else [high, low]

/-- Seventeen digits always suffice; the exact value stands behind them all the same. -/
def shortest (significand : Nat) (exponent : Int) : Decimal :=
  let numerator := significand * 2 ^ exponent.toNat
  let denominator := 2 ^ (-exponent).toNat
  let point := pointOf numerator denominator
  let candidates := (List.range 17).flatMap fun (count : Nat) =>
    neighbours numerator denominator (point - (count + 1))
  match candidates.find? (·.readsBackAs significand exponent) with
  | some decimal => decimal
  | none => ofBinary significand exponent

/-- The digits without the zeros at their end, and the position of the point relative to their
start. -/
def significant (decimal : Decimal) : List Char × Int :=
  let digits := Nat.toDigits 10 decimal.digits
  ((digits.reverse.dropWhile (· = '0')).reverse, decimal.power + digits.length)

end Decimal

end BucketGuard
