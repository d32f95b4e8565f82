import BucketGuard.Problem
import BucketGuard.Service.ClientError

namespace BucketGuard

/-! Why an operation ends without a result. -/

inductive Failure where
  | rejected (rejection : Rejection)
  /-- The object lock of a bucket would be given up. -/
  | lockHeld (bucket : String)
  | refused (error : ClientError)
  | broken (text : String)
  /-- The encryption key is neither text nor empty. -/
  | keyNotText (kind : Kind)
  /-- A document has keys that cannot be written. -/
  | unwritable (fault : KeyFault)
  /-- An object was expected in a response. -/
  | responseForm (kind : Kind)
  deriving DecidableEq, Repr

namespace Failure

def message : Failure → String
  | .rejected rejection => rejection.message
  | .lockHeld bucket => s!"Object lock is enabled on bucket {bucket} and cannot be disabled"
  | .refused error => error.message
  | .broken text => text
  | .keyNotText kind => s!"expected string or bytes-like object, got '{kind.name}'"
  | .unwritable fault => fault.message
  | .responseForm kind => s!"'{kind.name}' object has no attribute 'get'"

end Failure

end BucketGuard
