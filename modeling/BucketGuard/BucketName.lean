import BucketGuard.Text.Parts

namespace BucketGuard

/-! The form of bucket names: letters and digits at both ends, and also hyphens between them. The
form alone sets no bound on the length and lets one line break follow the name. -/

namespace BucketName

def isEnd (character : Char) : Bool :=
  Text.isLowerLetter character || Text.isAsciiDigit character

/-- Two ends at least, and nothing but name characters. -/
def isName : List Char → Bool
  | first :: second :: rest =>
      isEnd first && (second :: rest).all Text.isNameCharacter &&
        isEnd ((second :: rest).getLast (by simp))
  | _ => false

def hasForm (name : String) : Bool := isName (Text.withoutFinalBreak name.toList)

end BucketName

end BucketGuard
