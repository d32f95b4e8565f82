import BucketGuard.Json

namespace BucketGuard

/-! Reading JSON text. The grammar is that of JSON with three more numbers, `NaN`, `Infinity` and
`-Infinity`; a number with a fraction or an exponent is a float and any other an integer. A fault
carries the text that was left when it was found, which gives its position in the whole. A reading
function returns what it read with the text after it. How deep values are nested and how long
integers are may be limited. -/

namespace Json

inductive ReadProblem where
  | byteOrderMark
  | expectedValue
  | expectedName
  | expectedColon
  | expectedComma
  | unterminatedText
  | controlCharacter
  | unknownEscape
  | unicodeEscape
  | extraData
  | integerTooLong
  | nestedTooDeep
  deriving DecidableEq, Repr

namespace ReadProblem

def message : ReadProblem → String
  | .byteOrderMark => "Unexpected UTF-8 BOM (decode using utf-8-sig)"
  | .expectedValue => "Expecting value"
  | .expectedName => "Expecting property name enclosed in double quotes"
  | .expectedColon => "Expecting ':' delimiter"
  | .expectedComma => "Expecting ',' delimiter"
  | .unterminatedText => "Unterminated string starting at"
  | .controlCharacter => "Invalid control character at"
  | .unknownEscape => "Invalid \\escape"
  | .unicodeEscape => "Invalid \\uXXXX escape"
  | .extraData => "Extra data"
  | .integerTooLong => "Integer with too many digits"
  | .nestedTooDeep => "Value nested too deep"

end ReadProblem

structure ReadFault where
  problem : ReadProblem
  remaining : List Char
  deriving DecidableEq, Repr

/-- The most digits that an integer may have, and the most levels that a value may have. -/
structure ReadLimits where
  digits : Option Nat
  depth : Option Nat
  deriving DecidableEq, Repr

namespace ReadLimits

-- Powers of plain numbers, whatever else is imported.
attribute [local instance (2000)] instPowNat

def unlimited : ReadLimits := { digits := none, depth := none }

/-- The limits inside an array or an object, if there may be one. -/
def inner? (limits : ReadLimits) : Option ReadLimits :=
  match limits.depth with
  | none => some limits
  | some 0 => none
  | some (depth + 1) => some { limits with depth := some depth }

/-- An integer has too many digits if it reaches a power of ten. The logarithm spares the power
where the integer is far below it. -/
def isTooLong (limits : ReadLimits) (value : Scalar) : Bool :=
  match value, limits.digits with
  | .int value, some digits =>
      3 * digits ≤ value.natAbs.log2 && decide (10 ^ digits ≤ value.natAbs)
  | _, _ => false

end ReadLimits

def isSpace (character : Char) : Bool :=
  character = ' ' || character = '\t' || character = '\n' || character = '\r'

def skipSpace (text : List Char) : List Char := text.dropWhile isSpace

/-! ## Text -/

def hexadecimalDigit? (character : Char) : Option Nat :=
  if '0' ≤ character ∧ character ≤ '9' then some (character.toNat - '0'.toNat)
  else if 'a' ≤ character ∧ character ≤ 'f' then some (character.toNat - 'a'.toNat + 10)
  else if 'A' ≤ character ∧ character ≤ 'F' then some (character.toNat - 'A'.toNat + 10)
  else none

/-- The UTF-16 unit of four hexadecimal digits. -/
def unit? (first second third fourth : Char) : Option Nat := do
  let first ← hexadecimalDigit? first
  let second ← hexadecimalDigit? second
  let third ← hexadecimalDigit? third
  let fourth ← hexadecimalDigit? fourth
  return ((first * 16 + second) * 16 + third) * 16 + fourth

def shortEscape? : Char → Option Char
  | '"' => some '"'
  | '\\' => some '\\'
  | '/' => some '/'
  | 'b' => some '\x08'
  | 'f' => some '\x0c'
  | 'n' => some '\n'
  | 'r' => some '\r'
  | 't' => some '\t'
  | _ => none

/-- The body of a text up to its closing quote, as units: code points, and halves of surrogate pairs
where escapes give them. Four digits of an escape must be followed by a further character. -/
def readUnits (opening : List Char) : List Char → Except ReadFault (List Nat × List Char)
  | [] => .error { problem := .unterminatedText, remaining := opening }
  | '"' :: rest => .ok ([], rest)
  | '\\' :: rest =>
      match rest with
      | [] => .error { problem := .unterminatedText, remaining := opening }
      | 'u' :: first :: second :: third :: fourth :: next :: after =>
          match unit? first second third fourth with
          | some unit => (readUnits opening (next :: after)).map
              fun (units, remaining) => (unit :: units, remaining)
          | none => .error { problem := .unicodeEscape, remaining := rest }
      | 'u' :: _ => .error { problem := .unicodeEscape, remaining := rest }
      | letter :: after =>
          match shortEscape? letter with
          | some character => (readUnits opening after).map
              fun (units, remaining) => (character.toNat :: units, remaining)
          | none => .error { problem := .unknownEscape, remaining := '\\' :: rest }
  | character :: rest =>
      if character.toNat < 0x20 then
        .error { problem := .controlCharacter, remaining := character :: rest }
      else
        (readUnits opening rest).map
          fun (units, remaining) => (character.toNat :: units, remaining)

def isHighHalf (unit : Nat) : Bool := 0xd800 ≤ unit && unit < 0xdc00

def isLowHalf (unit : Nat) : Bool := 0xdc00 ≤ unit && unit < 0xe000

/-- A character for a unit; a half without its partner reads as the replacement character. -/
def unitCharacter (unit : Nat) : Char :=
  if isHighHalf unit || isLowHalf unit then '\ufffd' else Char.ofNat unit

/-- Two halves in a row make one character. -/
def joinUnits : List Nat → List Char
  | [] => []
  | [unit] => [unitCharacter unit]
  | high :: low :: rest =>
      if isHighHalf high && isLowHalf low then
        Char.ofNat (0x10000 + (high - 0xd800) * 0x400 + (low - 0xdc00)) :: joinUnits rest
      else unitCharacter high :: joinUnits (low :: rest)

def readText (text : List Char) : Except ReadFault (String × List Char) :=
  (readUnits ('"' :: text) text).map
    fun (units, remaining) => (String.ofList (joinUnits units), remaining)

/-! ## Numbers -/

def isDigit (character : Char) : Bool := '0' ≤ character && character ≤ '9'

/-- The digits of a whole number: a zero stands alone. -/
def wholeDigits? : List Char → Option (List Char × List Char)
  | '0' :: rest => some (['0'], rest)
  | character :: rest =>
      if isDigit character then
        some (character :: rest.takeWhile isDigit, rest.dropWhile isDigit)
      else none
  | [] => none

/-- The digits after a point; without one, the point is not part of the number. -/
def fraction (text : List Char) : Option (List Char) × List Char :=
  match text with
  | '.' :: rest =>
      match rest.takeWhile isDigit with
      | [] => (none, text)
      | digits => (some digits, rest.dropWhile isDigit)
  | _ => (none, text)

/-- A signed exponent; without digits, its letter is not part of the number. -/
def exponent (text : List Char) : Option Int × List Char :=
  match text with
  | letter :: rest =>
      if letter = 'e' ∨ letter = 'E' then
        let (negative, body) := match rest with
          | '-' :: body => (true, body)
          | '+' :: body => (false, body)
          | body => (false, body)
        match body.takeWhile isDigit with
        | [] => (none, text)
        | digits =>
            let magnitude : Int := Nat.ofDigitChars 10 digits 0
            (some (if negative then -magnitude else magnitude), body.dropWhile isDigit)
      else (none, text)
  | [] => (none, text)

/-- An integer, or a float where a fraction or an exponent follows. -/
def readNumber? (negative : Bool) (text : List Char) : Option (Scalar × List Char) := do
  let (whole, afterWhole) ← wholeDigits? text
  let (decimals, afterFraction) := fraction afterWhole
  let (power, remaining) := exponent afterFraction
  match decimals, power with
  | none, none =>
      let magnitude : Int := Nat.ofDigitChars 10 whole 0
      return (.int (if negative then -magnitude else magnitude), remaining)
  | _, _ =>
      let decimals := decimals.getD []
      let digits := Nat.ofDigitChars 10 (whole ++ decimals) 0
      return (.float (.ofDecimal negative digits (power.getD 0 - decimals.length)), remaining)

/-! ## Values -/

def readLiteral? : List Char → Option (Scalar × List Char)
  | 'n' :: 'u' :: 'l' :: 'l' :: rest => some (.null, rest)
  | 't' :: 'r' :: 'u' :: 'e' :: rest => some (.bool true, rest)
  | 'f' :: 'a' :: 'l' :: 's' :: 'e' :: rest => some (.bool false, rest)
  | 'N' :: 'a' :: 'N' :: rest => some (.float .nan, rest)
  | 'I' :: 'n' :: 'f' :: 'i' :: 'n' :: 'i' :: 't' :: 'y' :: rest =>
      some (.float (.infinite false), rest)
  | '-' :: 'I' :: 'n' :: 'f' :: 'i' :: 'n' :: 'i' :: 't' :: 'y' :: rest =>
      some (.float (.infinite true), rest)
  | _ => none

def readScalar? (text : List Char) : Option (Scalar × List Char) :=
  match readLiteral? text with
  | some reading => some reading
  | none =>
      match text with
      | '-' :: rest => readNumber? true rest
      | _ => readNumber? false text

mutual
/-- A value at the start of a text. Every value, item and member takes a character at least, so a
fuel of twice the length of the text does not run out. -/
def readValue (limits : ReadLimits) : Nat → List Char → Except ReadFault (Json × List Char)
  | 0, text => .error { problem := .expectedValue, remaining := text }
  | fuel + 1, text =>
      match text with
      | '"' :: rest => (readText rest).map fun (value, remaining) => (.str value, remaining)
      | '{' :: rest =>
          match limits.inner? with
          | none => .error { problem := .nestedTooDeep, remaining := text }
          | some inner =>
              match skipSpace rest with
              | '}' :: remaining => .ok (.obj [], remaining)
              | body => (readMembers inner fuel [] body).map
                  fun (members, remaining) => (.obj members, remaining)
      | '[' :: rest =>
          match limits.inner? with
          | none => .error { problem := .nestedTooDeep, remaining := text }
          | some inner =>
              match skipSpace rest with
              | ']' :: remaining => .ok (.arr [], remaining)
              | body => (readItems inner fuel body).map
                  fun (items, remaining) => (.arr items, remaining)
      | _ =>
          match readScalar? text with
          | some (value, remaining) =>
              if limits.isTooLong value then
                .error { problem := .integerTooLong, remaining := text }
              else .ok (.leaf value, remaining)
          | none => .error { problem := .expectedValue, remaining := text }

def readItems (limits : ReadLimits) : Nat → List Char → Except ReadFault (List Json × List Char)
  | 0, text => .error { problem := .expectedValue, remaining := text }
  | fuel + 1, text => do
      let (item, afterItem) ← readValue limits fuel text
      match skipSpace afterItem with
      | ']' :: remaining => return ([item], remaining)
      | ',' :: rest => do
          let (items, remaining) ← readItems limits fuel (skipSpace rest)
          return (item :: items, remaining)
      | remaining => .error { problem := .expectedComma, remaining }

/-- The members of an object up to its closing brace, put one after another behind those that were
read before: a repeated key keeps its last value. -/
def readMembers (limits : ReadLimits) : Nat → List (String × Json) → List Char →
    Except ReadFault (List (String × Json) × List Char)
  | 0, _, text => .error { problem := .expectedName, remaining := text }
  | fuel + 1, members, text =>
      match text with
      | '"' :: rest => do
          let (key, afterKey) ← readText rest
          match skipSpace afterKey with
          | ':' :: afterColon => do
              let (value, afterValue) ← readValue limits fuel (skipSpace afterColon)
              let members := Members.put members key value
              match skipSpace afterValue with
              | '}' :: remaining => return (members, remaining)
              | ',' :: rest => readMembers limits fuel members (skipSpace rest)
              | remaining => .error { problem := .expectedComma, remaining }
          | remaining => .error { problem := .expectedColon, remaining }
      | _ => .error { problem := .expectedName, remaining := text }
end

def readWithin (limits : ReadLimits) (text : List Char) : Except ReadFault Json :=
  match text with
  | '\ufeff' :: _ => .error { problem := .byteOrderMark, remaining := text }
  | _ => do
      let (value, afterValue) ← readValue limits (2 * text.length + 1) (skipSpace text)
      match skipSpace afterValue with
      | [] => return value
      | remaining => .error { problem := .extraData, remaining }

def read (text : List Char) : Except ReadFault Json := readWithin .unlimited text

/-! ## Positions -/

/-- Lines and columns count from one and offsets from zero, all in characters. -/
structure Position where
  line : Nat
  column : Nat
  offset : Nat
  deriving DecidableEq, Repr

def Position.after (preceding : List Char) : Position :=
  { line := preceding.count '\n' + 1
    column := (preceding.reverse.takeWhile (· ≠ '\n')).length + 1
    offset := preceding.length }

namespace ReadFault

def position (text : List Char) (fault : ReadFault) : Position :=
  .after (text.take (text.length - fault.remaining.length))

def message (text : List Char) (fault : ReadFault) : String :=
  let position := fault.position text
  let place := s!"line {position.line} column {position.column} (char {position.offset})"
  s!"{fault.problem.message}: {place}"

end ReadFault

end Json

end BucketGuard
