import BucketGuard.Binary64
import BucketGuard.Text.Blank
import BucketGuard.Text.DecimalDigit
import BucketGuard.Text.Parts

namespace BucketGuard

/-! Numbers in the liberal form in which variables hold them: with blanks around, with digits of any
script, and with single underscores between digits. -/

namespace Text

/-- The digit that a character stands for. Every script has its digits in a row from zero. -/
def digitValue? (character : Char) : Option Nat :=
  let point := character.toNat
  (decimalDigitRanges.find? fun (first, last) => first ≤ point && point ≤ last).map
    fun (first, _) => (point - first) % 10

/-- A digit of any script as the common digit, and any other character as it is. -/
def commonDigit (character : Char) : Char :=
  match digitValue? character with
  | some value => Char.ofNat ('0'.toNat + value)
  | none => character

def trim (text : List Char) : List Char :=
  ((text.dropWhile isBlank).reverse.dropWhile isBlank).reverse

/-- Every underscore stands between two digits. -/
def groupsDigits (behindDigit : Bool) : List Char → Bool
  | [] => true
  | '_' :: rest =>
      behindDigit && (rest.head?.map isAsciiDigit).getD false && groupsDigits false rest
  | character :: rest => groupsDigits (isAsciiDigit character) rest

/-- The bare characters of a numeral, if underscores stand only where they may. -/
def numeral? (text : String) : Option (List Char) :=
  let characters := (trim text.toList).map commonDigit
  if groupsDigits false characters then some (characters.filter (· ≠ '_')) else none

/-- The sign of a numeral and what it stands before. -/
def splitSign : List Char → Bool × List Char
  | '-' :: rest => (true, rest)
  | '+' :: rest => (false, rest)
  | rest => (false, rest)

def signed (negative : Bool) (magnitude : Nat) : Int := if negative then -magnitude else magnitude

/-- The most digits that an integer is read with. -/
def integerDigits : Nat := 4300

def integer? (text : String) : Option Int := do
  let characters ← numeral? text
  let (negative, digits) := splitSign characters
  if digits.isEmpty || !digits.all isAsciiDigit || integerDigits < digits.length then none
  else some (signed negative (Nat.ofDigitChars 10 digits 0))

/-- The power of ten that an exponent sets, or zero for none. -/
def powerOfTen? : List Char → Option Int
  | [] => some 0
  | letter :: rest =>
      let (negative, digits) := splitSign rest
      if letter.toLower ≠ 'e' || digits.isEmpty || !digits.all isAsciiDigit then none
      else some (signed negative (Nat.ofDigitChars 10 digits 0))

/-- A decimal with digits before or behind its point, or one of the words for what is no fraction,
in any case. -/
def float? (text : String) : Option Binary64 := do
  let characters ← numeral? text
  let (negative, body) := splitSign characters
  let word := String.ofList (body.map Char.toLower)
  if word = "nan" then some .nan
  else if word = "inf" ∨ word = "infinity" then some (.infinite negative)
  else
    let whole := body.takeWhile isAsciiDigit
    let (decimals, rest) := match body.dropWhile isAsciiDigit with
      | '.' :: rest => (rest.takeWhile isAsciiDigit, rest.dropWhile isAsciiDigit)
      | rest => ([], rest)
    let power ← powerOfTen? rest
    if (whole ++ decimals).isEmpty then none
    else
      let digits := Nat.ofDigitChars 10 (whole ++ decimals) 0
      some (.ofDecimal negative digits (power - decimals.length))

end Text

end BucketGuard
