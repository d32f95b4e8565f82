import BucketGuard.Json.KeyOrder
import BucketGuard.Policy

namespace BucketGuard

/-! Policies as documents. Principals are grouped by kind and conditions by test and context key,
each group at the place of its first member. A group is named by a scalar: a list or an object names
none. -/

namespace Members

/-- Values under a key, behind those that are there. The key is compared by what it denotes. -/
def extend (present : List (Scalar × List α)) (key : Scalar) (join : List α → List α) :
    List (Scalar × List α) :=
  match present with
  | [] => [(key, join [])]
  | (other, values) :: rest =>
      if other.sameKey key then (other, join values) :: rest
      else (other, values) :: extend rest key join

end Members

namespace Json

/-- The scalar that a value is, if it can be a key. -/
def key (value : Json) : Except KeyFault Scalar :=
  match value with
  | .leaf scalar => .ok scalar
  | other => .error (.composite other.kind)

end Json

namespace PrincipalSet

/-- Identifiers by kind of principal. Repeated identifiers stay. -/
def grouped (groups : List (Scalar × List Json)) :
    List PrincipalSet → Except KeyFault (List (Scalar × List Json))
  | [] => .ok groups
  | set :: rest => do
      let kind ← set.kind.key
      grouped (Members.extend groups kind (· ++ set.identifiers)) rest

/-- Everyone is written as one mark, if nobody else is named. -/
def document (sets : List PrincipalSet) : Except KeyFault Document :=
  if sets = [.wildcard] then .ok (.str "*")
  else do
    let groups ← grouped [] sets
    return .obj (groups.map fun (kind, identifiers) =>
      (kind, .arr (identifiers.map Document.ofJson)))

end PrincipalSet

namespace Condition

/-- The values that are not there yet, each once, behind those that are. -/
def addValues (present : List Json) : List Json → List Json
  | [] => present
  | value :: rest =>
      addValues (if value ∈ present then present else present ++ [value]) rest

def grouped (groups : List (Scalar × List (Scalar × List Json))) :
    List Condition → Except KeyFault (List (Scalar × List (Scalar × List Json)))
  | [] => .ok groups
  | condition :: rest => do
      let test ← condition.test.key
      let key ← condition.key.key
      grouped
        (Members.extend groups test fun keys =>
          Members.extend keys key fun values => addValues values condition.values)
        rest

def document (conditions : List Condition) : Except KeyFault Document := do
  let groups ← grouped [] conditions
  return .obj (groups.map fun (test, keys) =>
    (test, .obj (keys.map fun (key, values) => (key, .arr (values.map Document.ofJson)))))

end Condition

namespace Statement

/-- The part of a document that is there only for a list with members. -/
def part (name : String) (render : List α → Except KeyFault Document) :
    List α → Except KeyFault (List (String × Document))
  | [] => .ok []
  | items => do
      let document ← render items
      return [(name, document)]

def document (statement : Statement) : Except KeyFault Document := do
  let principals ← part "Principal" PrincipalSet.document statement.principals
  let conditions ← part "Condition" Condition.document statement.conditions
  let sid := if statement.sid = .null then [] else [("Sid", Document.ofJson statement.sid)]
  return .ofFields
    (sid ++ [("Effect", Document.ofJson statement.effect)] ++ principals ++
      [("Action", .arr (statement.actions.map Document.ofJson)),
        ("Resource", .arr (statement.resources.map Document.ofJson))] ++
      conditions)

end Statement

namespace Policy

def documents : List Statement → Except KeyFault (List Document)
  | [] => .ok []
  | statement :: rest => do
      let first ← statement.document
      let others ← documents rest
      return first :: others

def document (statements : List Statement) : Except KeyFault Document := do
  let statements ← documents statements
  return .ofFields [("Version", .str "2012-10-17"), ("Statement", .arr statements)]

end Policy

end BucketGuard
