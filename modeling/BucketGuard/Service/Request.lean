import BucketGuard.Json

namespace BucketGuard

/-! Requests to the storage service. Each names a bucket, and all but the one that reads the object
lock carry a setting to be put there. -/

inductive Operation where
  | getObjectLock
  | putPublicAccessBlock
  | putVersioning
  | putEncryption
  | putPolicy
  | putLifecycle
  | putObjectLock
  | putLogging
  | putCors
  deriving DecidableEq, Repr

namespace Operation

def all : List Operation :=
  [.getObjectLock, .putPublicAccessBlock, .putVersioning, .putEncryption, .putPolicy, .putLifecycle,
    .putObjectLock, .putLogging, .putCors]

def name : Operation → String
  | .getObjectLock => "get_object_lock_configuration"
  | .putPublicAccessBlock => "put_public_access_block"
  | .putVersioning => "put_bucket_versioning"
  | .putEncryption => "put_bucket_encryption"
  | .putPolicy => "put_bucket_policy"
  | .putLifecycle => "put_bucket_lifecycle_configuration"
  | .putObjectLock => "put_object_lock_configuration"
  | .putLogging => "put_bucket_logging"
  | .putCors => "put_bucket_cors"

def serviceName : Operation → String
  | .getObjectLock => "GetObjectLockConfiguration"
  | .putPublicAccessBlock => "PutPublicAccessBlock"
  | .putVersioning => "PutBucketVersioning"
  | .putEncryption => "PutBucketEncryption"
  | .putPolicy => "PutBucketPolicy"
  | .putLifecycle => "PutBucketLifecycleConfiguration"
  | .putObjectLock => "PutObjectLockConfiguration"
  | .putLogging => "PutBucketLogging"
  | .putCors => "PutBucketCors"

def ofName? (name : String) : Option Operation := all.find? (·.name = name)

def argumentName : Operation → String
  | .getObjectLock => ""
  | .putPublicAccessBlock => "PublicAccessBlockConfiguration"
  | .putVersioning => "VersioningConfiguration"
  | .putEncryption => "ServerSideEncryptionConfiguration"
  | .putPolicy => "Policy"
  | .putLifecycle => "LifecycleConfiguration"
  | .putObjectLock => "ObjectLockConfiguration"
  | .putLogging => "BucketLoggingStatus"
  | .putCors => "CORSConfiguration"

end Operation

structure Request where
  operation : Operation
  bucket : String
  setting : Option Json
  deriving DecidableEq, Repr

namespace Request

def arguments (request : Request) : List (String × Json) :=
  ("Bucket", .str request.bucket) ::
    request.setting.toList.map fun setting => (request.operation.argumentName, setting)

end Request

end BucketGuard
