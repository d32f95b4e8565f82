import BucketGuard.Binary64

namespace BucketGuard

/-! Document values. A tree has scalars at its leaves and any type of keys in its objects: a JSON
value is a tree whose keys are text, and a rendered document may also have other scalars for keys.
Objects keep their members in the order in which they were given. -/

inductive Scalar where
  | null
  | bool (value : Bool)
  | int (value : Int)
  | float (value : Binary64)
  | str (text : String)
  deriving DecidableEq, Repr

inductive Tree (κ : Type) where
  | leaf (value : Scalar)
  | arr (items : List (Tree κ))
  | obj (members : List (κ × Tree κ))
  deriving Repr

abbrev Json := Tree String

namespace Tree

@[match_pattern] abbrev null : Tree κ := .leaf .null

@[match_pattern] abbrev bool (value : Bool) : Tree κ := .leaf (.bool value)

@[match_pattern] abbrev int (value : Int) : Tree κ := .leaf (.int value)

@[match_pattern] abbrev float (value : Binary64) : Tree κ := .leaf (.float value)

@[match_pattern] abbrev str (text : String) : Tree κ := .leaf (.str text)

def texts (items : List String) : Tree κ := .arr (items.map .str)

/-! Equality is decided member by member. -/

mutual
def decideEqual [DecidableEq κ] : (left right : Tree κ) → Decidable (left = right)
  | .leaf left, .leaf right =>
      decidable_of_iff (left = right) (by simp)
  | .arr left, .arr right =>
      @decidable_of_iff _ (left = right) (by simp) (decideItems left right)
  | .obj left, .obj right =>
      @decidable_of_iff _ (left = right) (by simp) (decideMembers left right)
  | .leaf _, .arr _ => .isFalse (by simp)
  | .leaf _, .obj _ => .isFalse (by simp)
  | .arr _, .leaf _ => .isFalse (by simp)
  | .arr _, .obj _ => .isFalse (by simp)
  | .obj _, .leaf _ => .isFalse (by simp)
  | .obj _, .arr _ => .isFalse (by simp)

def decideItems [DecidableEq κ] : (left right : List (Tree κ)) → Decidable (left = right)
  | [], [] => .isTrue rfl
  | [], _ :: _ => .isFalse (by simp)
  | _ :: _, [] => .isFalse (by simp)
  | left :: lefts, right :: rights =>
      @decidable_of_iff _ (left = right ∧ lefts = rights) (by simp)
        (@instDecidableAnd _ _ (decideEqual left right) (decideItems lefts rights))

def decideMembers [DecidableEq κ] :
    (left right : List (κ × Tree κ)) → Decidable (left = right)
  | [], [] => .isTrue rfl
  | [], _ :: _ => .isFalse (by simp)
  | _ :: _, [] => .isFalse (by simp)
  | (key, left) :: lefts, (other, right) :: rights =>
      @decidable_of_iff _ (key = other ∧ left = right ∧ lefts = rights)
        (by simp [and_assoc])
        (@instDecidableAnd _ _ inferInstance
          (@instDecidableAnd _ _ (decideEqual left right) (decideMembers lefts rights)))
end

instance [DecidableEq κ] : DecidableEq (Tree κ) := decideEqual

instance : LawfulBEq Json := inferInstance

end Tree

/-! Members of an object, by key. -/

namespace Members

def get? [DecidableEq κ] (members : List (κ × α)) (key : κ) : Option α :=
  match members with
  | [] => none
  | (other, value) :: rest => if other = key then some value else get? rest key

/-- A present key keeps its place and takes the new value; a new key goes to the end. -/
def put [DecidableEq κ] (members : List (κ × α)) (key : κ) (value : α) : List (κ × α) :=
  match members with
  | [] => [(key, value)]
  | (other, old) :: rest =>
      if other = key then (other, value) :: rest else (other, old) :: put rest key value

/-- The members put one after another into an object. -/
def putAll [DecidableEq κ] (members additions : List (κ × α)) : List (κ × α) :=
  additions.foldl (fun present (key, value) => put present key value) members

end Members

namespace Json

/-- A value counts as given unless it is null, false, a zero, or empty. -/
def isGiven : Json → Bool
  | .leaf .null => false
  | .leaf (.bool value) => value
  | .leaf (.int value) => value ≠ 0
  | .leaf (.float value) => !value.isZero
  | .leaf (.str text) => text ≠ ""
  | .arr items => !items.isEmpty
  | .obj members => !members.isEmpty

/-- An integer; a boolean or a float is none. -/
def int? : Json → Option Int
  | .leaf (.int value) => some value
  | _ => none

/-- An integer from zero up. -/
def count? (value : Json) : Option Int := value.int?.filter (0 ≤ ·)

/-- An integer above zero. -/
def positive? (value : Json) : Option Int := value.int?.filter (0 < ·)

def str? : Json → Option String
  | .leaf (.str text) => some text
  | _ => none

/-- A value given as text that is not empty. -/
def isText : Json → Bool
  | .leaf (.str text) => text ≠ ""
  | _ => false

def members : Json → List (String × Json)
  | .obj members => members
  | _ => []

/-- What the object holds under a key: a missing key reads as null. -/
def field (members : List (String × Json)) (key : String) : Json :=
  (Members.get? members key).getD .null

end Json

end BucketGuard
