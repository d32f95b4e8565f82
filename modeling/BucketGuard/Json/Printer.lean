import BucketGuard.Binary64.Layout
import BucketGuard.Json
import BucketGuard.Text.Literal

namespace BucketGuard

/-! JSON text of a value. Everything but visible ASCII is escaped by UTF-16 code units, so a written
value is visible ASCII whatever it holds. Members are written in the order of the object. -/

namespace Json

/-- How the parts of a value are set apart: not at all, by single spaces, or by line breaks with an
indentation that is repeated for each level. -/
inductive Layout where
  | compact
  | spaced
  | indented (indentation : List Char)
  deriving DecidableEq, Repr

namespace Layout

/-- A line break and the indentation of a level, in the layout that has them. -/
def lineBreak (level : Nat) : Layout → List Char
  | .indented indentation => '\n' :: (List.replicate level indentation).flatten
  | _ => []

def comma (level : Nat) : Layout → List Char
  | .compact => [',']
  | .spaced => [',', ' ']
  | .indented indentation => ',' :: (Layout.indented indentation).lineBreak level

def colon : Layout → List Char
  | .compact => [':']
  | _ => [':', ' ']

/-- Levels are indented by a number of spaces; a number below zero is none. -/
def ofWidth (width : Int) : Layout := .indented (List.replicate width.toNat ' ')

/-- The layout that is asked for by null, a width or an indentation. A truth value counts as zero or
one. -/
def ofRequest? : Json → Option Layout
  | .null => some .compact
  | .int width => some (ofWidth width)
  | .bool value => some (ofWidth (if value then 1 else 0))
  | .str indentation => some (.indented indentation.toList)
  | _ => none

end Layout

/-- The words for numbers that JSON itself cannot write. -/
def numberWords : Binary64.Words := { nan := "NaN", infinity := "Infinity" }

def unitEscape (unit : Nat) : List Char := '\\' :: 'u' :: Text.hexadecimal 4 unit

/-- A character beyond sixteen bits takes two units. -/
def pointEscape (point : Nat) : List Char :=
  if point < 0x10000 then unitEscape point
  else
    unitEscape (0xd800 + (point - 0x10000) / 0x400) ++
      unitEscape (0xdc00 + (point - 0x10000) % 0x400)

def writeCharacter (character : Char) : List Char :=
  if character = '"' then ['\\', '"']
  else if character = '\\' then ['\\', '\\']
  else if character = '\n' then ['\\', 'n']
  else if character = '\r' then ['\\', 'r']
  else if character = '\t' then ['\\', 't']
  else if character = '\x08' then ['\\', 'b']
  else if character = '\x0c' then ['\\', 'f']
  else if 0x20 ≤ character.toNat ∧ character.toNat < 0x7f then [character]
  else pointEscape character.toNat

def writeText (text : String) : List Char :=
  '"' :: (text.toList.flatMap writeCharacter ++ ['"'])

def writeInt : Int → List Char
  | .ofNat value => Nat.toDigits 10 value
  | .negSucc value => '-' :: Nat.toDigits 10 (value + 1)

def writeScalar : Scalar → List Char
  | .null => ['n', 'u', 'l', 'l']
  | .bool true => ['t', 'r', 'u', 'e']
  | .bool false => ['f', 'a', 'l', 's', 'e']
  | .int value => writeInt value
  | .float value => value.layout numberWords
  | .str text => writeText text

mutual
def write (layout : Layout) (level : Nat) : Json → List Char
  | .leaf value => writeScalar value
  | .arr [] => ['[', ']']
  | .arr (item :: rest) =>
      '[' :: (layout.lineBreak (level + 1) ++ write layout (level + 1) item ++
        writeItems layout (level + 1) rest ++ layout.lineBreak level ++ [']'])
  | .obj [] => ['{', '}']
  | .obj ((key, value) :: rest) =>
      '{' :: (layout.lineBreak (level + 1) ++ writeText key ++ layout.colon ++
        write layout (level + 1) value ++ writeMembers layout (level + 1) rest ++
        layout.lineBreak level ++ ['}'])

def writeItems (layout : Layout) (level : Nat) : List Json → List Char
  | [] => []
  | item :: rest =>
      layout.comma level ++ write layout level item ++ writeItems layout level rest

def writeMembers (layout : Layout) (level : Nat) : List (String × Json) → List Char
  | [] => []
  | (key, value) :: rest =>
      layout.comma level ++ writeText key ++ layout.colon ++ write layout level value ++
        writeMembers layout level rest
end

def print (layout : Layout) (value : Json) : String := String.ofList (write layout 0 value)

end Json

end BucketGuard
