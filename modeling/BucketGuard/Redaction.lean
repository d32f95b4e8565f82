import BucketGuard.Json
import BucketGuard.Redaction.Pattern
import BucketGuard.Text.Blank
import BucketGuard.Text.DecimalDigit
import BucketGuard.Text.LetterCase
import BucketGuard.Text.Parts
import BucketGuard.Text.Word

namespace BucketGuard

/-! Redaction of text and of values before they are shown. Four patterns give away account and key
identifiers, and a few field names announce a value that must not be seen. In an object, everything
under a sensitive key is hidden. -/

namespace Redaction

def mark : String := "[REDACTED]"

/-! ## Patterns -/

def isSeparator (character : Char) : Bool := character = ':' || Text.isBlank character

def isJoint (character : Char) : Bool := character = '_' || Text.isBlank character

def isLetter (character : Char) : Bool :=
  let folded := Text.folded character
  'a' ≤ folded && folded ≤ 'z'

def isDigit (character : Char) : Bool := '0' ≤ character && character ≤ '9'

def isLetterOrHyphen (character : Char) : Bool := isLetter character || character = '-'

def isNameCharacter (character : Char) : Bool := isLetterOrHyphen character || isDigit character

def isKeyCharacter (character : Char) : Bool := isLetter character || isDigit character

/-- A digit in base sixty-four, or its padding. -/
def isTokenCharacter (character : Char) : Bool :=
  isKeyCharacter character || character = '/' || character = '+' || character = '='

private def word (letters : String) : Piece := .word letters.toList

def accountPattern : Pattern :=
  { lead := [word "arn:aws", .many isLetterOrHyphen, word ":", .several isNameCharacter, word ":",
      .many isNameCharacter, word ":"]
    secret := .exactly 12 Text.isDecimalDigit }

def keyIdPattern : Pattern :=
  { lead := [word "access", .optional isJoint, word "key", .optional isJoint, word "id",
      .several isSeparator]
    secret := .exactly 20 isKeyCharacter }

def secretKeyPattern : Pattern :=
  { lead := [word "secret", .optional isJoint, word "access", .optional isJoint, word "key",
      .several isSeparator]
    secret := .exactly 40 isTokenCharacter }

def sessionTokenPattern : Pattern :=
  { lead := [word "session", .optional isJoint, word "token", .several isSeparator]
    secret := .several isTokenCharacter }

def patterns : List Pattern := [accountPattern, keyIdPattern, secretKeyPattern, sessionTokenPattern]

/-- The lead of a pattern stays and the secret is marked. -/
def findPattern (pattern : Pattern) : Finder := fun _ text => do
  let lead ← Piece.totalLength? text pattern.lead
  let secret ← pattern.secret.length? (text.drop lead)
  return { length := lead + secret, replacement := text.take lead ++ mark.toList }

/-! ## Fields -/

def sensitiveFields : List String :=
  ["access_key_id", "secret_access_key", "session_token", "password", "secret", "credentials",
    "token"]

/-- A value ends at a blank, a comma, a semicolon or a closing parenthesis. -/
def isValueCharacter (character : Char) : Bool :=
  !(Text.isBlank character || character = ',' || character = ';' || character = ')')

/-- How much of a text is separators and a value behind them. Where nothing follows the separators,
the last colon among them, but never the first separator, counts as the value. -/
def announcedLength? (text : List Char) : Option Nat :=
  let separators := text.takeWhile isSeparator
  let value := (text.drop separators.length).takeWhile isValueCharacter
  if separators.isEmpty then none
  else if !value.isEmpty then some (separators.length + value.length)
  else
    match separators.tail.reverse.dropWhile (· ≠ ':') with
    | [] => none
    | kept => some (kept.length + 1)

/-- A word begins here. -/
def atWordStart (before : Option Char) : Bool := !(before.any Text.isWord)

/-- The name of a field at the start of a word, with what it announces. The name is written in its
own case and the value is marked. -/
def findField (field : String) : Finder := fun before text =>
  if atWordStart before then do
    let rest ← Text.afterWord? field.toList text
    let announced ← announcedLength? rest
    return {
      length := field.length + announced
      replacement := field.toList ++ [':', ' '] ++ mark.toList }
  else none

/-! ## Text -/

/-- The patterns are redacted first, in their order, and then the fields in the order given. -/
def redactFields (fields : List String) (text : List Char) : List Char :=
  fields.foldl (fun text field => (findField field).replaceIn text)
    (patterns.foldl (fun text pattern => (findPattern pattern).replaceIn text) text)

def redact (text : String) : String := String.ofList (redactFields sensitiveFields text.toList)

/-! ## Values -/

/-- A key is sensitive if one of the words occurs in it, whatever its case. -/
def isSensitive (words : List String) (key : String) : Bool :=
  let letters := (Text.lower key).toList
  words.any fun word => Text.occursIn word.toList letters

mutual
/-- Objects inside objects are redacted too, and text is redacted as text. Lists stay as they are.
-/
def redactValue (words : List String) : Json → Json
  | .leaf (.str text) => .str (redact text)
  | .leaf value => .leaf value
  | .arr items => .arr items
  | .obj members => .obj (redactMembers words members)

/-- Whatever stands under a sensitive key is replaced by the mark. -/
def redactMembers (words : List String) : List (String × Json) → List (String × Json)
  | [] => []
  | (key, value) :: rest =>
      (key, if isSensitive words key then .str mark else redactValue words value) ::
        redactMembers words rest
end

/-- The members of an object, with further words that make a key sensitive. -/
def redactObject (further : List String) (members : List (String × Json)) :
    List (String × Json) :=
  redactMembers (sensitiveFields ++ further) members

end Redaction

end BucketGuard
