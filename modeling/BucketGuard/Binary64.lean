namespace BucketGuard

/-! Double-precision numbers as plain data. A finite number is a sign, a significand below `2^53`
and a binary exponent, in the one form that the format itself has, so equal numbers of equal sign
are equal data and every operation is exact integer arithmetic. -/

-- Powers of plain numbers, whatever else is imported.
attribute [local instance (2000)] instPowNat

inductive Binary64 where
  | nan
  | infinite (negative : Bool)
  | finite (negative : Bool) (significand : Nat) (exponent : Int)
  deriving DecidableEq, Repr

namespace Binary64

/-- The exponent of the numbers that are too small for a full significand. -/
def leastExponent : Int := -1074

def greatestExponent : Int := 971

def zero (negative : Bool) : Binary64 := .finite negative 0 leastExponent

/-- A quotient rounded to the nearest natural number, a half to the even neighbour. -/
def roundQuotient (numerator denominator : Nat) : Nat :=
  let floor := numerator / denominator
  let twice := 2 * (numerator % denominator)
  if twice < denominator then floor
  else if denominator < twice then floor + 1
  else floor + floor % 2

def scaled (numerator denominator : Nat) (exponent : Int) : Nat × Nat :=
  (numerator * 2 ^ (-exponent).toNat, denominator * 2 ^ exponent.toNat)

/-- The exponent that leaves a fraction a significand of 53 bits, but no less than the least one.
The two logarithms determine it up to one, and the comparison settles which. -/
def fittingExponent (numerator denominator : Nat) : Int :=
  let guess : Int := numerator.log2 - denominator.log2 - 52
  let (top, bottom) := scaled numerator denominator guess
  max leastExponent (if top < 2 ^ (52 : Nat) * bottom then guess - 1 else guess)

/-- The number nearest to a fraction, a tie going to the even significand. -/
def ofFraction (negative : Bool) (numerator denominator : Nat) : Binary64 :=
  if numerator = 0 then zero negative
  else
    let exponent := fittingExponent numerator denominator
    let (top, bottom) := scaled numerator denominator exponent
    let significand := roundQuotient top bottom
    let (significand, exponent) :=
      if significand = 2 ^ (53 : Nat) then (2 ^ (52 : Nat), exponent + 1)
      else (significand, exponent)
    if greatestExponent < exponent then .infinite negative
    else .finite negative significand exponent

/-- The number nearest to `digits * 10^power`. The first two cases are far outside the range and
keep the powers of ten small. -/
def ofDecimal (negative : Bool) (digits : Nat) (power : Int) : Binary64 :=
  if digits = 0 ∨ power < -400 - digits.log2 then zero negative
  else if 400 < power then .infinite negative
  else ofFraction negative (digits * 10 ^ power.toNat) (10 ^ (-power).toNat)

/-- Zero of either sign is the only finite number that does not count as given. -/
def isZero : Binary64 → Bool
  | .finite _ significand _ => significand = 0
  | _ => false

end Binary64

/-- Where a number stands on the line: below or above every fraction, or at an exact fraction with a
positive denominator. -/
inductive Magnitude where
  | below
  | exact (numerator : Int) (denominator : Nat)
  | above
  deriving DecidableEq, Repr

namespace Magnitude

def ofInt (value : Int) : Magnitude := .exact value 1

def same : Magnitude → Magnitude → Bool
  | .below, .below => true
  | .above, .above => true
  | .exact left leftScale, .exact right rightScale => left * rightScale = right * leftScale
  | _, _ => false

def less : Magnitude → Magnitude → Bool
  | .below, .below => false
  | .below, _ => true
  | .exact left leftScale, .exact right rightScale => left * rightScale < right * leftScale
  | .exact _ _, .above => true
  | _, _ => false

end Magnitude

/-- What is not a number stands nowhere. -/
def Binary64.magnitude? : Binary64 → Option Magnitude
  | .nan => none
  | .infinite negative => some (if negative then .below else .above)
  | .finite negative significand exponent =>
      let absolute : Int := significand * 2 ^ exponent.toNat
      some (.exact (if negative then -absolute else absolute) (2 ^ (-exponent).toNat))

end BucketGuard
