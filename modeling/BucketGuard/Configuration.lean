import BucketGuard.Json

namespace BucketGuard

/-! The desired security posture of a bucket, and what compiling it produces. A configuration
carries document values as they were given, for validation to judge; a setting that was left out
holds null. -/

/-- Default retention for objects that are written once. -/
structure ObjectLock where
  mode : Json
  retentionDays : Json
  deriving DecidableEq, Repr

structure PrincipalSet where
  kind : Json
  identifiers : List Json
  deriving DecidableEq, Repr

/-- A test on a context key against a list of values. -/
structure Condition where
  test : Json
  key : Json
  values : List Json
  deriving DecidableEq, Repr

structure Statement where
  sid : Json
  effect : Json
  principals : List PrincipalSet
  actions : List Json
  resources : List Json
  conditions : List Condition
  deriving DecidableEq, Repr

/-- A move to another storage class after a number of days. -/
structure Transition where
  afterDays : Json
  storageClass : Json
  deriving DecidableEq, Repr

structure LifecycleRule where
  id : Json
  enabled : Json
  keyPrefix : Json
  transitions : List Transition
  expirationDays : Json
  noncurrentTransitions : List Transition
  noncurrentExpirationDays : Json
  abortUploadDays : Json
  deriving DecidableEq, Repr

structure CorsRule where
  allowedOrigins : List Json
  allowedMethods : List Json
  allowedHeaders : List Json
  exposedHeaders : List Json
  maxAgeSeconds : Json
  deriving DecidableEq, Repr

structure Configuration where
  name : Json
  environment : Json
  encryptionKey : Json
  loggingBucket : Json
  loggingPrefix : Json
  lockEnabled : Json
  lock : Option ObjectLock
  trustedPrincipals : List Json
  trustedActions : Option (List Json)
  lifecycleRules : List LifecycleRule
  statements : List Statement
  corsRules : List CorsRule
  tags : List (String × Json)
  deriving DecidableEq, Repr

/-- What provisioning attaches to a bucket. -/
structure Artifact where
  bucket : String
  encryptionKey : Json
  statements : List Statement
  lifecycleRules : List LifecycleRule
  lock : Option ObjectLock
  loggingBucket : Json
  loggingPrefix : Json
  corsRules : List CorsRule
  deriving DecidableEq, Repr

end BucketGuard
