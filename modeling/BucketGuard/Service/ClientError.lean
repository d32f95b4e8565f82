import BucketGuard.Json.Kind
import BucketGuard.Json.Message
import BucketGuard.Service.Request

namespace BucketGuard

/-! Refusals by the storage service, read from its error response. -/

structure ClientError where
  operation : Operation
  code : Json
  reason : Json
  /-- The number of retries, if the service gave up after too many of them. -/
  retries : Option Json
  deriving DecidableEq, Repr

namespace ClientError

/-- The retries are told only where the service says that it gave up. -/
def retriesIn (metadata : List (String × Json)) : Option Json :=
  if (Json.field metadata "MaxAttemptsReached").isGiven then
    Members.get? metadata "RetryAttempts"
  else none

def ofResponse (operation : Operation) (response : List (String × Json)) :
    Except Kind ClientError := do
  let metadata ← Json.objectField response "ResponseMetadata"
  let error ← Json.objectField response "Error"
  return {
    operation
    code := (Members.get? error "Code").getD (.str "Unknown")
    reason := (Members.get? error "Message").getD (.str "Unknown")
    retries := retriesIn metadata }

def retryText (error : ClientError) : String :=
  match error.retries with
  | some retries => s!" (reached max retries: {retries.plain})"
  | none => ""

def message (error : ClientError) : String :=
  let operation := error.operation.serviceName ++ " operation" ++ error.retryText
  s!"An error occurred ({error.code.plain}) when calling the {operation}: {error.reason.plain}"

end ClientError

end BucketGuard
