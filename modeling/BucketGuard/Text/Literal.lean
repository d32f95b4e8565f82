import BucketGuard.Text.Printable

namespace BucketGuard

/-! Text as messages quote it: between single quotes, or between double quotes when the text holds a
single one and no double one. What cannot be seen is written by its code point. -/

namespace Text

/-- A number in lower-case hexadecimal, padded with zeros to a width. -/
def hexadecimal (width number : Nat) : List Char :=
  let digits := Nat.toDigits 16 number
  List.replicate (width - digits.length) '0' ++ digits

/-- A character by its code point, in the shortest of three widths. -/
def codePointEscape (point : Nat) : List Char :=
  if point ≤ 0xff then '\\' :: 'x' :: hexadecimal 2 point
  else if point ≤ 0xffff then '\\' :: 'u' :: hexadecimal 4 point
  else '\\' :: 'U' :: hexadecimal 8 point

def literalCharacter (quote character : Char) : List Char :=
  if character = quote ∨ character = '\\' then ['\\', character]
  else if character = '\n' then ['\\', 'n']
  else if character = '\r' then ['\\', 'r']
  else if character = '\t' then ['\\', 't']
  else if isPrintable character then [character]
  else codePointEscape character.toNat

def literalQuote (text : List Char) : Char :=
  if text.contains '\'' && !text.contains '"' then '"' else '\''

def literal (text : String) : String :=
  let characters := text.toList
  let quote := literalQuote characters
  String.ofList (quote :: (characters.flatMap (literalCharacter quote) ++ [quote]))

end Text

end BucketGuard
