import BucketGuard.Json

namespace BucketGuard

/-! The kinds of document values, and values of which one kind is expected. -/

/-- The kinds of value, under the names that messages give them. -/
inductive Kind where
  | null
  | bool
  | int
  | float
  | str
  | arr
  | obj
  deriving DecidableEq, Repr

namespace Kind

def name : Kind → String
  | .null => "NoneType"
  | .bool => "bool"
  | .int => "int"
  | .float => "float"
  | .str => "str"
  | .arr => "list"
  | .obj => "dict"

end Kind

def Scalar.kind : Scalar → Kind
  | .null => .null
  | .bool _ => .bool
  | .int _ => .int
  | .float _ => .float
  | .str _ => .str

namespace Json

def kind : Json → Kind
  | .leaf value => value.kind
  | .arr _ => .arr
  | .obj _ => .obj

/-- The members of a value that must be an object: any other value is rejected with its kind. -/
def asObject : Json → Except Kind (List (String × Json))
  | .obj members => .ok members
  | other => .error other.kind

/-- The object under a key, which reads as empty where the key is missing. -/
def objectField (members : List (String × Json)) (key : String) :
    Except Kind (List (String × Json)) :=
  asObject ((Members.get? members key).getD (.obj []))

end Json

end BucketGuard
