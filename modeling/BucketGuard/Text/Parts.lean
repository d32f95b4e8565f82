namespace BucketGuard

/-! Cutting a text into parts. -/

namespace Text

/-- The parts of a text between the occurrences of a separator: one more than there are
separators. -/
def splitOn (separator : Char) : List Char → List (List Char)
  | [] => [[]]
  | character :: rest =>
      if character = separator then [] :: splitOn separator rest
      else
        match splitOn separator rest with
        | [] => [[character]]
        | part :: parts => (character :: part) :: parts

/-- The text without one line break at its very end. -/
def withoutFinalBreak : List Char → List Char
  | [] => []
  | ['\n'] => []
  | character :: rest => character :: withoutFinalBreak rest

/-- Every line break as one line feed, however it was written. -/
def withLineFeeds : List Char → List Char
  | [] => []
  | '\r' :: '\n' :: rest => '\n' :: withLineFeeds rest
  | '\r' :: rest => '\n' :: withLineFeeds rest
  | character :: rest => character :: withLineFeeds rest

def occursIn (word : List Char) : List Char → Bool
  | [] => word.isEmpty
  | character :: rest => word.isPrefixOf (character :: rest) || occursIn word rest

def isLowerLetter (character : Char) : Bool := 'a' ≤ character && character ≤ 'z'

def isAsciiDigit (character : Char) : Bool := '0' ≤ character && character ≤ '9'

/-- A digit of a hexadecimal number in lower case. -/
def isLowerHexadecimal (character : Char) : Bool :=
  isAsciiDigit character || ('a' ≤ character && character ≤ 'f')

/-- A character of names and regions: a lower-case letter, a digit or a hyphen. -/
def isNameCharacter (character : Char) : Bool :=
  isLowerLetter character || isAsciiDigit character || character = '-'

end Text

end BucketGuard
