import BucketGuard.Binary64.Layout
import BucketGuard.Json
import BucketGuard.Text.Literal

namespace BucketGuard

/-! Values as messages show them. A value that is quoted keeps its kind visible: text stands between
quotes. A value that is shown plainly drops the quotes of text that stands on its own. -/

def messageWords : Binary64.Words := { nan := "nan", infinity := "inf" }

def Scalar.quoted : Scalar → String
  | .null => "None"
  | .bool true => "True"
  | .bool false => "False"
  | .int value => toString value
  | .float value => String.ofList (value.layout messageWords)
  | .str text => Text.literal text

namespace Json

mutual
def quoted : Json → String
  | .leaf value => value.quoted
  | .arr [] => "[]"
  | .arr (item :: rest) => "[" ++ quoted item ++ quotedItems rest ++ "]"
  | .obj [] => "\x7b\x7d"
  | .obj ((key, value) :: rest) =>
      "\x7b" ++ Text.literal key ++ ": " ++ quoted value ++ quotedMembers rest ++ "\x7d"

def quotedItems : List Json → String
  | [] => ""
  | item :: rest => ", " ++ quoted item ++ quotedItems rest

def quotedMembers : List (String × Json) → String
  | [] => ""
  | (key, value) :: rest =>
      ", " ++ Text.literal key ++ ": " ++ quoted value ++ quotedMembers rest
end

def plain : Json → String
  | .leaf (.str text) => text
  | value => value.quoted

end Json

end BucketGuard
