import BucketGuard.Digest
import BucketGuard.Document.Policy
import BucketGuard.Document.Storage

namespace BucketGuard

/-! Artifacts as documents. The fingerprint of an artifact is the digest of its canonical text. -/

namespace Artifact

/-- The optional parts are there where provisioning attaches something. -/
def fields (artifact : Artifact) : Except KeyFault (List (String × Document)) := do
  let policy ← Policy.document artifact.statements
  let lifecycle :=
    if artifact.lifecycleRules.isEmpty then []
    else [("lifecycle", LifecycleRule.listJson artifact.lifecycleRules)]
  let lock := artifact.lock.toList.map fun lock => ("objectLock", lock.json)
  let logging :=
    if artifact.loggingBucket.isGiven then
      [("logging", artifact.loggingJson "targetBucket" "targetPrefix")]
    else []
  let cors :=
    if artifact.corsRules.isEmpty then []
    else [("cors", CorsRule.listJson artifact.corsRules)]
  let encryption : Json := .obj [("kmsKeyId", artifact.encryptionKey)]
  return [("bucket", .str artifact.bucket), ("encryption", Document.ofJson encryption),
      ("policy", policy)] ++
    (lifecycle ++ lock ++ logging ++ cors).map fun (name, value) =>
      (name, Document.ofJson value)

def document (artifact : Artifact) : Except KeyFault Document := do
  let fields ← artifact.fields
  return .ofFields fields

def canonical (artifact : Artifact) : Except KeyFault String := do
  let document ← artifact.document
  document.canonical .compact

def fingerprint (artifact : Artifact) : Except KeyFault String := do
  let text ← artifact.canonical
  return Digest.sha256 text

/-- The artifact as it is written out, with its fingerprint. -/
def sealed (layout : Json.Layout) (artifact : Artifact) : Except KeyFault String := do
  let fields ← artifact.fields
  let fingerprint ← artifact.fingerprint
  (Document.ofFields (fields ++ [("fingerprint", .str fingerprint)])).canonical layout

end Artifact

end BucketGuard
