import BucketGuard.Json.KeyOrder
import BucketGuard.Redaction

namespace BucketGuard

/-! Structured events. An event is written as one line of JSON whose members are sorted, after
everything sensitive in it has been redacted. -/

structure Event where
  bucket : Json
  environment : Json
  event : Json
  reason : Json
  message : Json
  /-- Further members, which take the place of standard ones of the same name. -/
  further : List (String × Json)
  deriving DecidableEq, Repr

namespace Event

def members (event : Event) : List (String × Json) :=
  Members.putAll
    [("controller", .str "bucket-policy-compiler"), ("bucket", event.bucket),
      ("environment", event.environment), ("event", event.event), ("reason", event.reason),
      ("message", event.message)]
    event.further

def line (event : Event) : String :=
  Json.canonical .spaced (.obj (Redaction.redactObject [] event.members))

end Event

end BucketGuard
