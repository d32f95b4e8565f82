import BucketGuard.Json.KeyOrder
import BucketGuard.Configuration

namespace BucketGuard

/-! The other settings of a bucket as JSON values. A setting that was not given has no part in them.
-/

namespace Json

def givenField (name : String) (value : Json) (render : Json → Json) : List (String × Json) :=
  if value = .null then [] else [(name, render value)]

def listField (name : String) (items : List α) (render : α → Json) : List (String × Json) :=
  if items.isEmpty then [] else [(name, .arr (items.map render))]

end Json

namespace Transition

def json (daysName : String) (transition : Transition) : Json :=
  .obj [(daysName, transition.afterDays), ("StorageClass", transition.storageClass)]

end Transition

namespace LifecycleRule

def json (rule : LifecycleRule) : Json :=
  .obj
    ([("ID", rule.id),
        ("Status", .str (if rule.enabled.isGiven then "Enabled" else "Disabled")),
        ("Filter", .obj [("Prefix", rule.keyPrefix)])] ++
      Json.listField "Transitions" rule.transitions (Transition.json "Days") ++
      Json.givenField "Expiration" rule.expirationDays (fun days => .obj [("Days", days)]) ++
      Json.listField "NoncurrentVersionTransitions" rule.noncurrentTransitions
        (Transition.json "NoncurrentDays") ++
      Json.givenField "NoncurrentVersionExpiration" rule.noncurrentExpirationDays
        (fun days => .obj [("NoncurrentDays", days)]) ++
      Json.givenField "AbortIncompleteMultipartUpload" rule.abortUploadDays
        (fun days => .obj [("DaysAfterInitiation", days)]))

def listJson (rules : List LifecycleRule) : Json := .obj [("Rules", .arr (rules.map json))]

end LifecycleRule

namespace ObjectLock

def json (lock : ObjectLock) : Json :=
  .obj [("ObjectLockEnabled", .str "Enabled"),
    ("Rule", .obj [("DefaultRetention",
      .obj [("Mode", lock.mode), ("Days", lock.retentionDays)])])]

end ObjectLock

namespace CorsRule

def json (rule : CorsRule) : Json :=
  .obj
    ([("AllowedOrigins", .arr rule.allowedOrigins), ("AllowedMethods", .arr rule.allowedMethods)] ++
      Json.listField "AllowedHeaders" rule.allowedHeaders id ++
      Json.listField "ExposeHeaders" rule.exposedHeaders id ++
      Json.givenField "MaxAgeSeconds" rule.maxAgeSeconds id)

def listJson (rules : List CorsRule) : Json := .obj [("CORSRules", .arr (rules.map json))]

end CorsRule

namespace Artifact

/-- The target of access logs. A prefix that was not given is empty. -/
def loggingJson (bucketName prefixName : String) (artifact : Artifact) : Json :=
  .obj [(bucketName, artifact.loggingBucket),
    (prefixName, if artifact.loggingPrefix.isGiven then artifact.loggingPrefix else .str "")]

end Artifact

end BucketGuard
