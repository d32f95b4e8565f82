import BucketGuard.BucketName
import BucketGuard.KeyArn
import BucketGuard.Validation.Policy

namespace BucketGuard

/-! Judging a configuration. Every section is checked whatever is wrong with the others, so one pass
reports everything that has to be mended, in a fixed order of sections. -/

namespace CorsRule

def isMethod (method : Json) : Bool := method ∈ corsMethods.map Tree.str

/-- An age may be left out, and is a count otherwise. -/
def isAge (seconds : Json) : Bool := seconds = .null || seconds.count?.isSome

def errors (path : Path) (rule : CorsRule) : List FieldError :=
  let unknown := rule.allowedMethods.filter (!isMethod ·)
  (path.field "allowed_origins").flag rule.allowedOrigins.isEmpty .originsMissing ++
    (path.field "allowed_methods").flag rule.allowedMethods.isEmpty .methodsMissing ++
    (path.field "allowed_methods").flag (!unknown.isEmpty) (.methodsUnknown unknown) ++
    (path.field "max_age_seconds").flag (!isAge rule.maxAgeSeconds) (.maxAge rule.maxAgeSeconds)

def listErrors (index : Nat) : List CorsRule → List FieldError
  | [] => []
  | rule :: rest =>
      rule.errors ((Path.ofRoot "cors_rules").item index) ++ listErrors (index + 1) rest

end CorsRule

namespace ObjectLock

def errors (path : Path) (lock : ObjectLock) : List FieldError :=
  (path.field "mode").flag (lock.mode ∉ lockModes.map Tree.str) (.lockMode lock.mode) ++
    (path.field "retention_days").flag lock.retentionDays.positive?.isNone
      (.retentionDays lock.retentionDays)

end ObjectLock

namespace Configuration

/-- The length is judged only of a name that has the right form. -/
def nameErrors (configuration : Configuration) : List FieldError :=
  let path := Path.ofRoot "name"
  match configuration.name with
  | .str name =>
      if !BucketName.hasForm name then [{ path, problem := .nameForm (.str name) }]
      else path.flag (name.length < shortestName || longestName < name.length) .nameLength
  | name => [{ path, problem := .nameForm name }]

def environmentErrors (configuration : Configuration) : List FieldError :=
  (Path.ofRoot "environment").flag (configuration.environment ∉ environments.map Tree.str)
    (.environmentUnknown configuration.environment)

def encryptionKeyErrors (configuration : Configuration) : List FieldError :=
  let path := Path.ofRoot "kms_key_id"
  if !configuration.encryptionKey.isGiven then [{ path, problem := .keyMissing }]
  else path.flag (configuration.encryptionKey.str?.bind KeyArn.parse?).isNone .keyForm

/-- Lock settings that have no effect, because the lock is disabled. -/
def ignoresLock (configuration : Configuration) : Bool :=
  configuration.lockEnabled = .bool false && configuration.lock.isSome

/-- Lock settings without a lock are an error in strict mode alone. -/
def lockErrors (strict : Bool) (configuration : Configuration) : List FieldError :=
  let path := Path.ofRoot "object_lock"
  match configuration.lockEnabled with
  | .bool false => path.flag (strict && configuration.ignoresLock) .lockUnused
  | .bool true =>
      match configuration.lock with
      | none => [{ path, problem := .lockMissing }]
      | some lock => lock.errors path
  | flag => [{ path := .ofRoot "object_lock_enabled", problem := .lockFlag flag }]

def lifecycleErrors (configuration : Configuration) : List FieldError :=
  LifecycleRule.listErrors [] 0 configuration.lifecycleRules

def statementErrors (configuration : Configuration) : List FieldError :=
  Statement.listErrors [] 0 configuration.statements

def loggingErrors (configuration : Configuration) : List FieldError :=
  (Path.ofRoot "logging_target_prefix").flag
    (configuration.loggingPrefix.isGiven && !configuration.loggingBucket.isGiven)
    .loggingBucketMissing

def corsErrors (configuration : Configuration) : List FieldError :=
  CorsRule.listErrors 0 configuration.corsRules

def errors (strict : Bool) (configuration : Configuration) : List FieldError :=
  configuration.nameErrors ++ configuration.environmentErrors ++
    configuration.encryptionKeyErrors ++ configuration.lockErrors strict ++
    configuration.lifecycleErrors ++ configuration.statementErrors ++
    configuration.trustedErrors ++ configuration.loggingErrors ++ configuration.corsErrors

/-- A configuration is accepted if nothing is wrong with it. -/
def check (strict : Bool) (configuration : Configuration) : Except Rejection Unit :=
  Rejection.orElse (configuration.errors strict) ()

end Configuration

end BucketGuard
