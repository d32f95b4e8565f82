import BucketGuard.Text.CodeRanges

namespace BucketGuard

/-! Blank characters: the white space of Unicode and the four information separators. -/

namespace Text

def blankRanges : CodeRanges :=
  [(9, 13), (28, 32), (133, 133), (160, 160), (5760, 5760), (8192, 8202), (8232, 8233),
   (8239, 8239), (8287, 8287), (12288, 12288)]

def isBlank (character : Char) : Bool :=
  blankRanges.contains character.toNat

end Text

end BucketGuard
