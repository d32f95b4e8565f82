import BucketGuard.Settings
import BucketGuard.Text.Numeral

namespace BucketGuard

/-! Attributes of spans. An attribute may have any value; its name must not be empty. The
environment may limit how many attributes a span keeps, of which the oldest give way, and how long
the texts in their values are. -/

/-- A variable that should hold a limit and does not. -/
structure LimitFault where
  variableName : String
  content : String
  deriving DecidableEq, Repr

def LimitFault.message (fault : LimitFault) : String :=
  s!"{fault.variableName} must be a non-negative integer but got {fault.content}"

/-- The limits on the attributes of a span, where there are any. -/
structure AttributeLimits where
  count : Option Nat
  length : Option Nat
  deriving DecidableEq, Repr

namespace AttributeLimits

def usualCount : Nat := 128

/-- The limit that a variable sets. A variable that is set to nothing lifts the limit. -/
def read (environment : Environment) (usual : Option Nat) (name : String) :
    Except LimitFault (Option Nat) :=
  match Members.get? environment name with
  | none => .ok usual
  | some value =>
      let content := Text.lower (String.ofList (Text.trim value.toList))
      if content = "" then .ok none
      else
        match Text.integer? content with
        | some (.ofNat limit) => .ok (some limit)
        | some limit => .error { variableName := name, content := toString limit }
        | none => .error { variableName := name, content }

/-- The limits of the environment. Those on events and links bind no attribute of a span, but a
fault in one of them is a fault all the same. -/
def ofEnvironment (environment : Environment) : Except LimitFault AttributeLimits := do
  let _ ← read environment none "OTEL_SPAN_EVENT_COUNT_LIMIT"
  let _ ← read environment none "OTEL_SPAN_LINK_COUNT_LIMIT"
  let general ← read environment none "OTEL_ATTRIBUTE_COUNT_LIMIT"
  let usual := some (general.getD usualCount)
  let count ← read environment usual "OTEL_SPAN_ATTRIBUTE_COUNT_LIMIT"
  let _ ← read environment usual "OTEL_EVENT_ATTRIBUTE_COUNT_LIMIT"
  let _ ← read environment usual "OTEL_LINK_ATTRIBUTE_COUNT_LIMIT"
  let length ← read environment none "OTEL_ATTRIBUTE_VALUE_LENGTH_LIMIT"
  let length ← read environment length "OTEL_SPAN_ATTRIBUTE_VALUE_LENGTH_LIMIT"
  return { count, length }

def shorten (limits : AttributeLimits) (text : String) : String :=
  match limits.length with
  | some length => String.ofList (text.toList.take length)
  | none => text

mutual
/-- The value as a span keeps it: its texts are shortened, and members without a name are left out.
-/
def keep (limits : AttributeLimits) : Json → Json
  | .leaf (.str text) => .str (limits.shorten text)
  | .leaf value => .leaf value
  | .arr items => .arr (keepItems limits items)
  | .obj members => .obj (keepMembers limits members)

def keepItems (limits : AttributeLimits) : List Json → List Json
  | [] => []
  | item :: rest => keep limits item :: keepItems limits rest

def keepMembers (limits : AttributeLimits) : List (String × Json) → List (String × Json)
  | [] => []
  | (name, value) :: rest =>
      if name = "" then keepMembers limits rest
      else (name, keep limits value) :: keepMembers limits rest
end

/-- The attributes with one more, which is the newest even if its name was there. -/
def add (limits : AttributeLimits) (attributes : List (String × Json)) (name : String)
    (value : Json) : List (String × Json) :=
  if name = "" ∨ limits.count = some 0 then attributes
  else
    let others := attributes.filter (·.1 ≠ name)
    let isNew := others.length = attributes.length
    let room := if isNew ∧ limits.count = some attributes.length then others.drop 1 else others
    room ++ [(name, limits.keep value)]

def addAll (limits : AttributeLimits) (attributes additions : List (String × Json)) :
    List (String × Json) :=
  additions.foldl (fun present (name, value) => limits.add present name value) attributes

end AttributeLimits

end BucketGuard
