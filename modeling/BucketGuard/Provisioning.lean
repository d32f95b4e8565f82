import BucketGuard.Document.Artifact
import BucketGuard.Redaction
import BucketGuard.Service.Client

namespace BucketGuard

/-! Attaching artifacts to buckets. A fixed plan of requests follows from an artifact, and the first
that fails ends it. A bucket whose object lock is enabled never gets an artifact without one. -/

/-- Which ways to public access are blocked: all of them, unless told otherwise. The settings are
passed on as they are given. -/
structure PublicAccess where
  blockAcls : Json := .bool true
  blockPolicy : Json := .bool true
  ignoreAcls : Json := .bool true
  restrictBuckets : Json := .bool true
  deriving DecidableEq, Repr

namespace PublicAccess

def json (access : PublicAccess) : Json :=
  .obj [("BlockPublicAcls", access.blockAcls),
    ("BlockPublicPolicy", access.blockPolicy),
    ("IgnorePublicAcls", access.ignoreAcls),
    ("RestrictPublicBuckets", access.restrictBuckets)]

end PublicAccess

namespace ObjectLock

/-- The lock that an answer of the service tells of, if it is enabled. Without a default retention
it has no mode and no days. -/
def ofResponse (response : Json) : Except Kind (Option ObjectLock) := do
  let response ← Json.asObject response
  let lock ← Json.objectField response "ObjectLockConfiguration"
  if Json.field lock "ObjectLockEnabled" = .str "Enabled" then
    let rule ← Json.objectField lock "Rule"
    let retention ← Json.objectField rule "DefaultRetention"
    return some {
      mode := (Members.get? retention "Mode").getD (.str "")
      retentionDays := (Members.get? retention "Days").getD (.int 0) }
  else return none

end ObjectLock

namespace Provisioning

def refusalLine (attempt bucket : String) (error : ClientError) : Trail :=
  .ofLine .error s!"Failed to {attempt} for bucket {bucket}: {Redaction.redact error.message}"

/-- The lock of a bucket, as an outcome of asking for it. That the bucket has none is an answer like
any other. -/
def readLock (outcome : Outcome Json) (bucket : String) : Outcome (Option ObjectLock) :=
  match outcome.result with
  | .ok response =>
      { result := (ObjectLock.ofResponse response).mapError .responseForm
        trail := outcome.trail }
  | .error (.refused error) =>
      if error.code = .str Client.noLockCode then { result := .ok none, trail := outcome.trail }
      else
        { result := .error (.refused error)
          trail := outcome.trail ++ refusalLine "get object lock configuration" bucket error }
  | .error failure => { result := .error failure, trail := outcome.trail }

def lockOf (bucket : String) : Exchange (Option ObjectLock) :=
  (Exchange.send { operation := .getObjectLock, bucket, setting := none }).mapOutcome
    fun outcome => readLock outcome bucket

def isLocked (bucket : String) : Exchange Bool := do
  let lock ← lockOf bucket
  return lock.isSome

/-- What a request to put a setting leaves: it is counted if the service answered it. -/
def countPut (request : Request) (outcome : Outcome Json) : Outcome Unit :=
  match outcome.result with
  | .ok _ =>
      { result := .ok ()
        trail := outcome.trail ++ .ofCounts [.applied request.operation true] }
  | .error (.refused error) =>
      { result := .error (.refused error)
        trail := outcome.trail ++ .ofCounts [.applied request.operation false] ++
          refusalLine request.operation.name request.bucket error }
  | .error failure => { result := .error failure, trail := outcome.trail }

def put (request : Request) : Exchange Unit :=
  (Exchange.send request).mapOutcome (countPut request)

def putAll : List Request → Exchange Unit
  | [] => pure ()
  | request :: rest => do
      put request
      putAll rest

end Provisioning

namespace Artifact

def encryptionJson (artifact : Artifact) : Json :=
  .obj [("Rules", .arr [.obj [
    ("ApplyServerSideEncryptionByDefault",
      .obj [("SSEAlgorithm", .str encryptionAlgorithm),
        ("KMSMasterKeyID", artifact.encryptionKey)]),
    ("BucketKeyEnabled", .bool true)]])]

/-- The requests that attach the artifact: four of them always, and one for each part that it has.
-/
def plan (access : PublicAccess) (artifact : Artifact) : Except KeyFault (List Request) := do
  let policy ← Policy.document artifact.statements
  let text ← policy.canonical .compact
  let request (operation : Operation) (setting : Json) : Request :=
    { operation, bucket := artifact.bucket, setting := some setting }
  return [request .putPublicAccessBlock access.json,
      request .putVersioning (.obj [("Status", .str "Enabled")]),
      request .putEncryption artifact.encryptionJson,
      request .putPolicy (.str text)] ++
    (if artifact.lifecycleRules.isEmpty then []
      else [request .putLifecycle (LifecycleRule.listJson artifact.lifecycleRules)]) ++
    artifact.lock.toList.map (fun lock => request .putObjectLock lock.json) ++
    (if artifact.loggingBucket.isGiven then
      [request .putLogging
        (.obj [("LoggingEnabled", artifact.loggingJson "TargetBucket" "TargetPrefix")])]
      else []) ++
    (if artifact.corsRules.isEmpty then []
      else [request .putCors (CorsRule.listJson artifact.corsRules)])

/-- An artifact without a lock is refused where the bucket has one. -/
def keepLock (artifact : Artifact) : Exchange Unit := do
  if artifact.lock.isNone then
    let locked ← Provisioning.isLocked artifact.bucket
    if locked then Exchange.fail (.lockHeld artifact.bucket)

def attach (access : PublicAccess) (artifact : Artifact) : Exchange Unit := do
  artifact.keepLock
  let plan ← Exchange.ofOutcome (.ofExcept ((artifact.plan access).mapError .unwritable))
  Provisioning.putAll plan
  Exchange.ofOutcome
    (.leave (.ofLine .info s!"Applied compiled artifact to bucket {artifact.bucket}"))

def apply (traced : Bool) (access : PublicAccess) (artifact : Artifact) : Exchange Unit :=
  (artifact.attach access).mapOutcome fun outcome =>
    outcome.asSpan traced "apply_bucket_artifact" [("bucket.name", .str artifact.bucket)]

end Artifact

end BucketGuard
