import BucketGuard.Configuration
import BucketGuard.Problem

namespace BucketGuard

/-! Reading a specification, a JSON object in camel case, into a configuration. Values are carried
as they are given. Only the shape of the document is judged here: a section must be an object and a
rule list a list of objects, and null or nothing at all reads as an empty one. -/

/-- A value read from a document, with the errors of shape that were met on the way. -/
structure Shaped (α : Type) where
  value : α
  errors : List FieldError
  deriving DecidableEq, Repr

namespace Shaped

def sound (value : α) : Shaped α := { value, errors := [] }

def flawed (value : α) (path : Path) (problem : Problem) : Shaped α :=
  { value, errors := [{ path, problem }] }

instance : Monad Shaped where
  pure := sound
  bind first next :=
    let second := next first.value
    { value := second.value, errors := first.errors ++ second.errors }

def each (read : α → Shaped β) (items : List α) : Shaped (List β) :=
  { value := items.map fun item => (read item).value
    errors := items.flatMap fun item => (read item).errors }

def accepted (shaped : Shaped α) : Except Rejection α :=
  Rejection.orElse shaped.errors shaped.value

/-- The value, its errors behind those collected before. -/
def collected (earlier : List FieldError) (shaped : Shaped α) : α × List FieldError :=
  (shaped.value, earlier ++ shaped.errors)

/-- A part of a document that is read on its own, with a list of errors or without one. Errors go to
the list that is given, be it empty; where none is, they reject the part. -/
def reported (given : Option (List FieldError)) (shaped : Shaped α) :
    Except Rejection (α × List FieldError) :=
  let (value, errors) := shaped.collected (given.getD [])
  if given.isNone then Rejection.orElse errors (value, errors) else .ok (value, errors)

end Shaped

namespace Specification

abbrev Fields := List (String × Json)

def fieldsAt (fields : Fields) (key : String) (path : Path) : Shaped Fields :=
  match Json.field fields key with
  | .null => .sound []
  | .obj members => .sound members
  | other => .flawed [] path (.objectExpected other.kind)

/-- The objects of a list, with their places; anything else in it is dropped and reported. -/
def objectsFrom (path : Path) (index : Nat) : List Json → Shaped (List (Path × Fields))
  | [] => .sound []
  | .obj members :: rest => do
      let objects ← objectsFrom path (index + 1) rest
      return (path.item index, members) :: objects
  | other :: rest => do
      let _ ← Shaped.flawed () (path.item index) (.objectExpected other.kind)
      objectsFrom path (index + 1) rest

def objectsAt (fields : Fields) (key : String) (path : Path) :
    Shaped (List (Path × Fields)) :=
  match Json.field fields key with
  | .null => .sound []
  | .arr items => objectsFrom path 0 items
  | other => .flawed [] path (.listExpected other.kind)

/-- A list of values may be given by its only value. -/
def asList : Json → List Json
  | .null => []
  | .arr items => items
  | value => [value]

/-- What stands under a key, or a default where the key is missing. -/
def fieldOr (fields : Fields) (key : String) (default : Json) : Json :=
  (Members.get? fields key).getD default

/-! ## Lifecycle rules -/

def transition (fields : Fields) : Transition :=
  { afterDays := Json.field fields "days", storageClass := Json.field fields "storageClass" }

def transitionsAt (fields : Fields) (key : String) (path : Path) : Shaped (List Transition) := do
  let objects ← objectsAt fields key path
  return objects.map fun (_, object) => transition object

/-- A rule is switched by a flag or by the word of its status. -/
def ruleEnabled (fields : Fields) : Json :=
  match Members.get? fields "enabled" with
  | some flag => flag
  | none =>
      match fieldOr fields "status" (.str "Enabled") with
      | .str "Enabled" => .bool true
      | .str "Disabled" => .bool false
      | status => status

def lifecycleRule (path : Path) (fields : Fields) : Shaped LifecycleRule := do
  let expiration ← fieldsAt fields "expiration" (path.field "expiration")
  let noncurrentExpiration ← fieldsAt fields "noncurrentVersionExpiration"
    (path.field "noncurrentVersionExpiration")
  let abortUpload ← fieldsAt fields "abortIncompleteMultipartUpload"
    (path.field "abortIncompleteMultipartUpload")
  let transitions ← transitionsAt fields "transitions" (path.field "transitions")
  let noncurrentTransitions ← transitionsAt fields "noncurrentVersionTransitions"
    (path.field "noncurrentVersionTransitions")
  let keyPrefix := Json.field fields "prefix"
  return {
    id := fieldOr fields "id" (.str "")
    enabled := ruleEnabled fields
    keyPrefix := if keyPrefix.isGiven then keyPrefix else .str ""
    transitions
    expirationDays := Json.field expiration "days"
    noncurrentTransitions
    noncurrentExpirationDays := Json.field noncurrentExpiration "days"
    abortUploadDays := Json.field abortUpload "daysAfterInitiation" }

/-! ## Statements -/

def principalSet (fields : Fields) : PrincipalSet :=
  { kind := fieldOr fields "type" (.str "")
    identifiers := asList (Json.field fields "identifiers") }

/-- The values of a condition are compared as text. -/
def condition (fields : Fields) : Condition :=
  { test := fieldOr fields "test" (.str "")
    key := fieldOr fields "variable" (.str "")
    values := (asList (Json.field fields "values")).map fun value => .str value.plain }

def statement (path : Path) (fields : Fields) : Shaped Statement := do
  let principals ← objectsAt fields "principals" (path.field "principals")
  let conditions ← objectsAt fields "conditions" (path.field "conditions")
  return {
    sid := Json.field fields "sid"
    effect := fieldOr fields "effect" (.str "Allow")
    principals := principals.map fun (_, object) => principalSet object
    actions := asList (Json.field fields "actions")
    resources := asList (Json.field fields "resources")
    conditions := conditions.map fun (_, object) => condition object }

/-! ## Whole configurations -/

def corsRule (fields : Fields) : CorsRule :=
  { allowedOrigins := asList (Json.field fields "allowedOrigins")
    allowedMethods := asList (Json.field fields "allowedMethods")
    allowedHeaders := asList (Json.field fields "allowedHeaders")
    exposedHeaders := asList (Json.field fields "exposedHeaders")
    maxAgeSeconds := Json.field fields "maxAgeSeconds" }

/-- Lock settings are kept wherever one of them is given, whether or not the lock is enabled. -/
def objectLock (fields : Fields) : Option ObjectLock :=
  if (Members.get? fields "mode").isSome ∨ (Members.get? fields "retentionDays").isSome then
    some {
      mode := Json.field fields "mode"
      retentionDays := Json.field fields "retentionDays" }
  else none

def sectionAt (fields : Fields) (key : String) : Shaped Fields :=
  fieldsAt fields key (.ofRoot key)

def shapedConfiguration (fields : Fields) : Shaped Configuration := do
  let encryption ← sectionAt fields "encryption"
  let logging ← sectionAt fields "logging"
  let lock ← sectionAt fields "objectLock"
  let trusted ← sectionAt fields "trustedPrincipals"
  let lifecycle ← sectionAt fields "lifecycle"
  let policy ← sectionAt fields "policy"
  let cors ← sectionAt fields "cors"
  let tagging ← sectionAt fields "tagging"
  let tags ← fieldsAt tagging "tags" ((Path.ofRoot "tagging").field "tags")
  let rules ← objectsAt lifecycle "rules" ((Path.ofRoot "lifecycle").field "rules")
  let lifecycleRules ← Shaped.each (fun (path, rule) => lifecycleRule path rule) rules
  let objects ← objectsAt policy "statements" ((Path.ofRoot "policy").field "statements")
  let statements ← Shaped.each (fun (path, object) => statement path object) objects
  let corsRules ← objectsAt cors "rules" ((Path.ofRoot "cors").field "rules")
  return {
    name := fieldOr fields "name" (.str "")
    environment := fieldOr fields "environment" (.str "")
    encryptionKey := Json.field encryption "kmsKeyId"
    loggingBucket := Json.field logging "targetBucket"
    loggingPrefix := Json.field logging "targetPrefix"
    lockEnabled := fieldOr lock "enabled" (.bool false)
    lock := objectLock lock
    trustedPrincipals := asList (Json.field trusted "identifiers")
    trustedActions :=
      match Json.field trusted "actions" with
      | .null => none
      | actions => some (asList actions)
    lifecycleRules
    statements
    corsRules := corsRules.map fun (_, rule) => corsRule rule
    tags }

def configuration (fields : Fields) : Except Rejection Configuration :=
  (shapedConfiguration fields).accepted

end Specification

end BucketGuard
