import BucketGuard.Binary64.Shortest

namespace BucketGuard

/-! The text of a double-precision number: the shortest digits that read back, laid out positionally
from `0.0001` up to `10^16` and otherwise with a signed exponent of at least two digits. Only the
words for what is not finite differ between documents and messages. -/

namespace Binary64

/-- The words for the values that have no digits. -/
structure Words where
  nan : String
  infinity : String

/-- Positional notation, with a digit on both sides of the point. -/
def positional (digits : List Char) (point : Int) : List Char :=
  if point ≤ 0 then
    '0' :: '.' :: (List.replicate (-point).toNat '0' ++ digits)
  else if digits.length ≤ point then
    digits ++ List.replicate (point.toNat - digits.length) '0' ++ ['.', '0']
  else digits.take point.toNat ++ '.' :: digits.drop point.toNat

/-- Scientific notation, with one digit before the point and no point after a single digit. -/
def scientific (digits : List Char) (point : Int) : List Char :=
  let power := point - 1
  let magnitude := Nat.toDigits 10 power.natAbs
  let padding := if magnitude.length < 2 then ['0'] else []
  let mantissa := match digits with
    | [] => []
    | [digit] => [digit]
    | digit :: rest => digit :: '.' :: rest
  mantissa ++ 'e' :: (if power < 0 then '-' else '+') :: (padding ++ magnitude)

def unsigned (significand : Nat) (exponent : Int) : List Char :=
  if significand = 0 then ['0', '.', '0']
  else
    let (digits, point) := (Decimal.shortest significand exponent).significant
    if -4 < point ∧ point ≤ 16 then positional digits point else scientific digits point

def layout (words : Words) : Binary64 → List Char
  | .nan => words.nan.toList
  | .infinite negative => (if negative then ['-'] else []) ++ words.infinity.toList
  | .finite negative significand exponent =>
      (if negative then ['-'] else []) ++ unsigned significand exponent

end Binary64

end BucketGuard
