namespace BucketGuard

/-! Patterns of text that gives a secret away, and the text with what is found in it replaced. A
pattern is a row of pieces, each of which takes as much of a text as it can: the pieces of a pattern
are set apart by their characters, so none can take what the next one needs. -/

namespace Text

/-- A letter in lower case. Four letters outside ASCII stand for the ASCII letters that they are
other forms of. -/
def folded (character : Char) : Char :=
  if 'A' ≤ character ∧ character ≤ 'Z' then Char.ofNat (character.toNat + 32)
  else if character = '\u017f' then 's'
  else if character = '\u212a' then 'k'
  else if character = '\u0131' ∨ character = '\u0130' then 'i'
  else character

/-- What follows a word in lower case at the start of a text, whatever the case there. -/
def afterWord? : (word text : List Char) → Option (List Char)
  | [], text => some text
  | _ :: _, [] => none
  | letter :: word, character :: text =>
      if folded character = letter then afterWord? word text else none

end Text

inductive Piece where
  | word (letters : List Char)
  | optional (accepts : Char → Bool)
  | many (accepts : Char → Bool)
  | several (accepts : Char → Bool)
  | exactly (count : Nat) (accepts : Char → Bool)

namespace Piece

/-- How many characters at the start of a text the piece takes. -/
def length? (text : List Char) : Piece → Option Nat
  | .word letters => (Text.afterWord? letters text).map fun _ => letters.length
  | .optional accepts => some (((text.take 1).takeWhile accepts).length)
  | .many accepts => some ((text.takeWhile accepts).length)
  | .several accepts =>
      match text.takeWhile accepts with
      | [] => none
      | taken => some taken.length
  | .exactly count accepts =>
      if ((text.take count).takeWhile accepts).length = count then some count else none

def totalLength? (text : List Char) : List Piece → Option Nat
  | [] => some 0
  | piece :: rest => do
      let first ← piece.length? text
      let others ← totalLength? (text.drop first) rest
      return first + others

end Piece

/-- Pieces that lead to a secret, and the secret. -/
structure Pattern where
  lead : List Piece
  secret : Piece

/-- So many characters of a text, and what is written for them. -/
structure Finding where
  length : Nat
  replacement : List Char
  deriving DecidableEq, Repr

/-- Looks at the start of a text, given the character before it. -/
abbrev Finder := Option Char → List Char → Option Finding

namespace Finder

/-- Replaces what is found in a text, from left to right. The characters of a finding are skipped
once it has been replaced, so findings do not overlap. -/
def replaceFrom (find : Finder) (before : Option Char) (skipped : Nat) :
    List Char → List Char
  | [] => []
  | character :: rest =>
      match skipped with
      | skipped + 1 => replaceFrom find (some character) skipped rest
      | 0 =>
          match find before (character :: rest) with
          | some finding =>
              finding.replacement ++
                replaceFrom find (some character) (finding.length - 1) rest
          | none => character :: replaceFrom find (some character) 0 rest

def replaceIn (find : Finder) (text : List Char) : List Char := replaceFrom find none 0 text

end Finder

end BucketGuard
