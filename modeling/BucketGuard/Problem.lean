import BucketGuard.Json.KeyOrder
import BucketGuard.Json.Message
import BucketGuard.Path

namespace BucketGuard

/-! What can be wrong with a bucket's configuration. Each problem is tied to the place of the
offending value, and a rejection carries every problem that was found. -/

def environments : List String := ["dev", "staging", "prod", "test"]

def lockModes : List String := ["GOVERNANCE", "COMPLIANCE"]

def effects : List String := ["Allow", "Deny"]

def storageClasses : List String :=
  ["STANDARD_IA", "ONEZONE_IA", "INTELLIGENT_TIERING", "GLACIER_IR", "GLACIER", "DEEP_ARCHIVE"]

def corsMethods : List String := ["GET", "PUT", "POST", "DELETE", "HEAD"]

def shortestName : Nat := 3

def longestName : Nat := 63

inductive Problem where
  | objectExpected (got : Kind)
  | listExpected (got : Kind)
  | nameForm (name : Json)
  | nameLength
  | environmentUnknown (environment : Json)
  | keyMissing
  | keyForm
  | lockFlag (flag : Json)
  | lockUnused
  | lockMissing
  | lockMode (mode : Json)
  | retentionDays (days : Json)
  | ruleIdMissing
  | ruleIdDuplicate (id : String)
  | ruleStatus (status : Json)
  | transitionDays (days : Json)
  | transitionOrder (days previous : Int)
  | storageClassUnknown (storageClass : Json)
  | expirationDays (days : Json)
  | expirationOrder (days previous : Int)
  | abortDays (days : Json)
  | actionsMissing
  | actionForm (action : Json)
  | resourcesMissing
  | resourceForm (resource : Json)
  | effectUnknown (effect : Json)
  | principalIncomplete
  | sidForm (sid : Json)
  | sidReserved (sid : String)
  | sidDuplicate (sid : String)
  | trustedIdentifierForm
  | trustedActionsMissing
  | loggingBucketMissing
  | originsMissing
  | methodsMissing
  | methodsUnknown (methods : List Json)
  | maxAge (seconds : Json)
  deriving DecidableEq, Repr

namespace Problem

private def oneOf (words : List String) : String := String.intercalate ", " words

def message : Problem → String
  | .objectExpected got => s!"expected an object, got {got.name}"
  | .listExpected got => s!"expected a list of objects, got {got.name}"
  | .nameForm name =>
      "bucket name " ++ name.quoted ++ " must match ^[a-z0-9][a-z0-9-]*[a-z0-9]$ " ++
        "(lowercase letters, digits and hyphens, not starting or ending with a hyphen)"
  | .nameLength =>
      s!"bucket name must be between {shortestName} and {longestName} characters long"
  | .environmentUnknown environment =>
      s!"environment {environment.quoted} must be one of {oneOf environments}"
  | .keyMissing => "encryption key is required; encryption cannot be disabled"
  | .keyForm => "encryption key must be a KMS key ARN"
  | .lockFlag flag => s!"object lock enabled flag must be a boolean, got {flag.quoted}"
  | .lockUnused => "object lock settings were supplied but object lock is disabled"
  | .lockMissing => "object lock is enabled but no object lock settings were supplied"
  | .lockMode mode => s!"object lock mode {mode.quoted} must be one of {oneOf lockModes}"
  | .retentionDays days => s!"retention days must be a positive integer, got {days.quoted}"
  | .ruleIdMissing => "lifecycle rule id is required"
  | .ruleIdDuplicate id => s!"duplicate lifecycle rule id {Text.literal id}"
  | .ruleStatus status =>
      s!"rule status must be a boolean or Enabled/Disabled, got {status.quoted}"
  | .transitionDays days => s!"days must be a non-negative integer, got {days.quoted}"
  | .transitionOrder days previous =>
      s!"transition days must increase within a rule ({days} follows {previous})"
  | .storageClassUnknown storageClass =>
      s!"storage class {storageClass.quoted} must be one of {oneOf storageClasses}"
  | .expirationDays days =>
      s!"expiration days must be a positive integer, got {days.quoted}"
  | .expirationOrder days previous =>
      s!"expiration after {days} days must come after the last transition ({previous} days)"
  | .abortDays days => s!"days must be a positive integer, got {days.quoted}"
  | .actionsMissing => "statement actions must not be empty"
  | .actionForm action => s!"action must be a non-empty string, got {action.quoted}"
  | .resourcesMissing => "statement resources must not be empty"
  | .resourceForm resource => s!"resource must be a non-empty string, got {resource.quoted}"
  | .effectUnknown effect => s!"statement effect {effect.quoted} must be one of {oneOf effects}"
  | .principalIncomplete => "principals need a type and at least one identifier"
  | .sidForm sid => s!"sid must be a non-empty string, got {sid.quoted}"
  | .sidReserved sid => s!"sid {Text.literal sid} is reserved for a baseline statement"
  | .sidDuplicate sid => s!"duplicate statement sid {Text.literal sid}"
  | .trustedIdentifierForm => "principal identifier must be a non-empty string"
  | .trustedActionsMissing =>
      "trusted principal actions must not be empty when given; omit them to use the defaults"
  | .loggingBucketMissing => "a logging prefix requires a logging target bucket"
  | .originsMissing => "at least one allowed origin is required"
  | .methodsMissing => "at least one allowed method is required"
  | .methodsUnknown methods =>
      s!"unsupported methods {oneOf (methods.map Json.plain)}; allowed: {oneOf corsMethods}"
  | .maxAge seconds => s!"max age must be a non-negative integer, got {seconds.quoted}"

end Problem

structure FieldError where
  path : Path
  problem : Problem
  deriving DecidableEq, Repr

namespace FieldError

def field (error : FieldError) : String := error.path.text

def message (error : FieldError) : String := error.problem.message

def line (error : FieldError) : String := s!"{error.field}: {error.message}"

end FieldError

def Path.flag (path : Path) (flawed : Bool) (problem : Problem) : List FieldError :=
  if flawed then [{ path, problem }] else []

/-- One problem at least, in the order in which they were found. -/
structure Rejection where
  first : FieldError
  rest : List FieldError
  deriving DecidableEq, Repr

namespace Rejection

def errors (rejection : Rejection) : List FieldError := rejection.first :: rejection.rest

/-- A rejection leads with its first problem and counts the others. -/
def headline (field message : String) (others : Nat) : String :=
  let first := s!"{field}: {message}"
  if others = 0 then first else s!"{first} (and {others} more)"

def message (rejection : Rejection) : String :=
  headline rejection.first.field rejection.first.message rejection.rest.length

def emptyMessage : String := "ValidationError requires at least one field error"

def orElse (errors : List FieldError) (value : α) : Except Rejection α :=
  match errors with
  | [] => .ok value
  | first :: rest => .error { first, rest }

end Rejection

end BucketGuard
