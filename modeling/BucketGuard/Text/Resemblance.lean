namespace BucketGuard

/-! How alike two texts are. The longest run of characters that stands in both is found first, and
then what the pieces before it and the pieces behind it share in the same way. Two texts resemble
each other if what they share makes up most of both. -/

namespace Text

/-- The length of the longest beginning that two texts share. -/
def sharedLead : List Char → List Char → Nat
  | left :: lefts, right :: rights => if left = right then sharedLead lefts rights + 1 else 0
  | _, _ => 0

theorem sharedLead_le_length (left right : List Char) : sharedLead left right ≤ left.length := by
  induction left generalizing right with
  | nil => simp [sharedLead]
  | cons head tail induction =>
      cases right with
      | nil => simp [sharedLead]
      | cons other others =>
          have shorter := induction others
          simp only [sharedLead, List.length_cons]
          split <;> omega

/-- A run of characters of one text that stands in another text too. -/
structure SharedRun (left : List Char) where
  leftStart : Nat
  rightStart : Nat
  length : Nat
  inside : leftStart + length ≤ left.length

namespace SharedRun

/-- The run that is as long as possible from a place in each text. -/
def startingAt (left right : List Char) (leftStart : Fin left.length) (rightStart : Nat) :
    SharedRun left where
  leftStart
  rightStart
  length := sharedLead (left.drop leftStart) (right.drop rightStart)
  inside := by
    have bounded := sharedLead_le_length (left.drop leftStart) (right.drop rightStart)
    rw [List.length_drop] at bounded
    omega

def longer {left : List Char} (first second : SharedRun left) : SharedRun left :=
  if first.length < second.length then second else first

/-- The longest run. Among equally long ones it begins first in the left text, and then in the right
one. -/
def longest (left right : List Char) : SharedRun left :=
  let starts := (List.finRange left.length).flatMap fun leftStart =>
    (List.range right.length).map (startingAt left right leftStart)
  starts.foldl longer
    { leftStart := 0, rightStart := 0, length := 0, inside := Nat.zero_le _ }

end SharedRun

def sharedLength (left right : List Char) : Nat :=
  let run := SharedRun.longest left right
  if run.length = 0 then 0
  else
    run.length +
      sharedLength (left.take run.leftStart) (right.take run.rightStart) +
      sharedLength (left.drop (run.leftStart + run.length))
        (right.drop (run.rightStart + run.length))
termination_by left.length
decreasing_by
  all_goals
    have inside := run.inside
    have nonempty : run.length ≠ 0 := ‹_›
    simp only [List.length_take, List.length_drop]
    simp only [run] at inside nonempty
    omega

/-- Six tenths of all the characters of both texts are shared. -/
def resembles (left right : List Char) : Bool :=
  3 * (left.length + right.length) ≤ 5 * (2 * sharedLength left right)

def resembling (word : String) (names : List String) : List String :=
  (names.filter fun name => resembles name.toList word.toList).mergeSort

end Text

end BucketGuard
