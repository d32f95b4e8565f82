import BucketGuard.Text.Parts

namespace BucketGuard

/-! Control sequences of terminals: an escape character and an opening bracket, then parameters,
then intermediate characters, then one final character. Text that is shown to people is freed of
them. -/

namespace Text

def escapeCharacter : Char := '\x1b'

def isParameter (character : Char) : Bool := '0' ≤ character && character ≤ '?'

def isIntermediate (character : Char) : Bool := ' ' ≤ character && character ≤ '/'

def isFinal (character : Char) : Bool := '@' ≤ character && character ≤ '~'

/-- What follows a control sequence, given what follows its escape character. -/
def behindSequence? : List Char → Option (List Char)
  | '[' :: rest =>
      match (rest.dropWhile isParameter).dropWhile isIntermediate with
      | character :: behind => if isFinal character then some behind else none
      | [] => none
  | _ => none

/-- The text without its control sequences. No sequence holds a second escape character, so the
parts between escape characters are looked at one by one. -/
def withoutSequences (text : List Char) : List Char :=
  match splitOn escapeCharacter text with
  | [] => []
  | first :: parts =>
      first ++ parts.flatMap fun part => (behindSequence? part).getD (escapeCharacter :: part)

end Text

end BucketGuard
