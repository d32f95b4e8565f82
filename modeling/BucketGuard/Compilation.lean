import BucketGuard.Document.Artifact
import BucketGuard.Event
import BucketGuard.Trail
import BucketGuard.Validation

namespace BucketGuard

/-! Compiling a configuration into the artifact that provisioning attaches to a bucket. Nothing is
compiled from a configuration that validation rejects. -/

namespace Configuration

def ignoredLockEvent (configuration : Configuration) : Event :=
  { bucket := .str configuration.name.plain
    environment := .str configuration.environment.plain
    event := .str "warning"
    reason := .str "ObjectLockIgnored"
    message := .str "Object lock settings supplied while object lock is disabled; ignoring them"
    further := [] }

/-- Accepts or rejects the configuration. Unless the mode is strict, ignored lock settings are told,
whatever else is wrong. -/
def validate (strict : Bool) (configuration : Configuration) : Outcome Unit := do
  if !strict && configuration.ignoresLock then
    Outcome.leave (.ofLine .warning configuration.ignoredLockEvent.line)
  Outcome.ofExcept ((configuration.check strict).mapError .rejected)

/-- The counts that a rejection leaves: every error under the field that its path begins with. -/
def rejectionCounts (rejection : Rejection) : List Count :=
  .compiled false ::
    (rejection.errors.map fun error => Count.flawed (Path.rootLabel error.field)) ++ [.timed]

/-- Validates, and counts a rejection. -/
def validateCounting (strict : Bool) (configuration : Configuration) : Outcome Unit :=
  let outcome := configuration.validate strict
  match outcome.result with
  | .error (.rejected rejection) =>
      { outcome with trail := outcome.trail ++ .ofCounts (rejectionCounts rejection) }
  | _ => outcome

/-- The statements of the policy, each counted under its kind. -/
def compose (configuration : Configuration) : Outcome (List Statement) :=
  match configuration.policy? with
  | none => .failed (.keyNotText configuration.encryptionKey.kind)
  | some statements =>
      { result := .ok (statements.map Prod.snd)
        trail := .ofCounts (statements.map fun (kind, _) => .emitted kind) }

/-- A lock that is not enabled is left out. -/
def artifact (configuration : Configuration) (statements : List Statement) : Artifact :=
  { bucket := configuration.name.plain
    encryptionKey := configuration.encryptionKey
    statements
    lifecycleRules := configuration.lifecycleRules
    lock := if configuration.lockEnabled.isGiven then configuration.lock else none
    loggingBucket := configuration.loggingBucket
    loggingPrefix := configuration.loggingPrefix
    corsRules := configuration.corsRules }

def compiledEvent (configuration : Configuration) (artifact : Artifact)
    (fingerprint : String) : Event :=
  { bucket := configuration.name
    environment := configuration.environment
    event := .str "compiled"
    reason := .str "CompileSucceeded"
    message := .str s!"Compiled policy for bucket {configuration.name.plain}"
    further := [
      ("statements", .int artifact.statements.length),
      ("lifecycle_rules", .int artifact.lifecycleRules.length),
      ("object_lock", .bool artifact.lock.isSome),
      ("fingerprint", .str fingerprint)] }

/-- The artifact and its fingerprint, which is noted as soon as there is one. An artifact without
canonical text is not handed out. -/
def compileUntraced (strict : Bool) (configuration : Configuration) :
    Outcome (Artifact × String) := do
  configuration.validateCounting strict
  let statements ← configuration.compose
  let artifact := configuration.artifact statements
  Outcome.leave (.ofCounts [.timed])
  let fingerprint ← Outcome.ofExcept (artifact.fingerprint.mapError .unwritable)
  Outcome.leave (.ofNote "artifact.fingerprint" (.str fingerprint) ++ .ofCounts [.compiled true])
  Outcome.leave (.ofLine .info (configuration.compiledEvent artifact fingerprint).line)
  return (artifact, fingerprint)

/-- Compiles as one span. -/
def compile (strict traced : Bool) (configuration : Configuration) :
    Outcome (Artifact × String) :=
  (configuration.compileUntraced strict).asSpan traced "compile_bucket_policy"
    [("bucket.name", .str configuration.name.plain)]

end Configuration

end BucketGuard
