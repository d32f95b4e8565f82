import BucketGuard.KeyArn
import BucketGuard.Json.Message
import BucketGuard.Sid

namespace BucketGuard

/-! The statements of a bucket's policy. The baseline comes first and nothing in a configuration can
remove it: transport must be encrypted, uploads must be encrypted, and with the configured key.
Trusted principals are allowed behind the transport rule, and custom statements follow the baseline.
-/

inductive StatementKind where
  | insecureTransport
  | trustedPrincipals
  | unencryptedUploads
  | incorrectKey
  | custom
  deriving DecidableEq, Repr

namespace StatementKind

def label : StatementKind → String
  | .insecureTransport => "deny_insecure_transport"
  | .trustedPrincipals => "allow_trusted_principals"
  | .unencryptedUploads => "deny_unencrypted_uploads"
  | .incorrectKey => "deny_incorrect_key"
  | .custom => "custom"

end StatementKind

namespace PrincipalSet

def wildcard : PrincipalSet := { kind := .str "*", identifiers := [.str "*"] }

end PrincipalSet

/-- What trusted principals may do unless their actions are given. -/
def defaultTrustedActions : List String :=
  ["s3:GetObject", "s3:GetObjectVersion", "s3:PutObject", "s3:DeleteObject",
    "s3:DeleteObjectVersion", "s3:ListBucket", "s3:ListBucketVersions", "s3:GetBucketLocation",
    "s3:GetObjectTagging", "s3:PutObjectTagging"]

def encryptionAlgorithm : String := "aws:kms"

def defaultPartition : String := "aws"

/-- The resource names of a bucket and of the objects in it. -/
structure BucketArn where
  bucket : String
  objects : String
  deriving DecidableEq, Repr

namespace BucketArn

def ofName (partition name : String) : BucketArn :=
  let bucket := s!"arn:{partition}:s3:::{name}"
  { bucket, objects := bucket ++ "/*" }

end BucketArn

namespace Policy

/-- A statement that denies everyone some actions. -/
def denial (sid : String) (action : String) (resources : List String) (condition : Condition) :
    Statement :=
  { sid := .str sid
    effect := .str "Deny"
    principals := [.wildcard]
    actions := [.str action]
    resources := resources.map .str
    conditions := [condition] }

def denyInsecureTransport (arn : BucketArn) : Statement :=
  denial Sid.insecureTransport "s3:*" [arn.bucket, arn.objects]
    { test := .str "Bool", key := .str "aws:SecureTransport", values := [.str "false"] }

/-- Holds also for an upload that names no encryption at all. -/
def denyUnencryptedUploads (arn : BucketArn) : Statement :=
  denial Sid.unencryptedUploads "s3:PutObject" [arn.objects]
    { test := .str "StringNotEquals", key := .str "s3:x-amz-server-side-encryption"
      values := [.str encryptionAlgorithm] }

/-- Holds only for an upload that names another key. -/
def denyIncorrectKey (arn : BucketArn) (encryptionKey : Json) : Statement :=
  denial Sid.incorrectKey "s3:PutObject" [arn.objects]
    { test := .str "StringNotEqualsIfExists"
      key := .str "s3:x-amz-server-side-encryption-aws-kms-key-id"
      values := [encryptionKey] }

/-- Actions that are left out or empty stand for the default ones. -/
def allowTrusted (arn : BucketArn) (principals : List Json) (actions : Option (List Json)) :
    Statement :=
  { sid := .str Sid.trustedPrincipals
    effect := .str "Allow"
    principals := [{ kind := .str "AWS", identifiers := principals }]
    actions :=
      match actions with
      | none | some [] => defaultTrustedActions.map .str
      | some actions => actions
    resources := [.str arn.bucket, .str arn.objects]
    conditions := [] }

/-- A statement without a name takes the one of its position. -/
def named (index : Nat) (statement : Statement) : Statement :=
  if statement.sid = .null then { statement with sid := .str (Sid.generated (index + 1)) }
  else statement

/-- The custom statements from an index on. -/
def customFrom (index : Nat) : List Statement → List Statement
  | [] => []
  | statement :: rest => named index statement :: customFrom (index + 1) rest

def statements (arn : BucketArn) (configuration : Configuration) :
    List (StatementKind × Statement) :=
  [(.insecureTransport, denyInsecureTransport arn)] ++
    (if configuration.trustedPrincipals.isEmpty then []
    else
      [(.trustedPrincipals,
        allowTrusted arn configuration.trustedPrincipals configuration.trustedActions)]) ++
    [(.unencryptedUploads, denyUnencryptedUploads arn),
      (.incorrectKey, denyIncorrectKey arn configuration.encryptionKey)] ++
    (customFrom 0 configuration.statements).map fun statement => (.custom, statement)

end Policy

namespace Configuration

/-- The partition that the encryption key names, or the default one where it names none. Only a key
that is given as something other than text has no partition. -/
def partition? (configuration : Configuration) : Option String :=
  match configuration.encryptionKey with
  | .str key =>
      match KeyArn.parse? key with
      | some arn => some (String.ofList arn.partition)
      | none => some defaultPartition
  | key => if key.isGiven then none else some defaultPartition

def arn? (configuration : Configuration) : Option BucketArn :=
  configuration.partition?.map fun partition =>
    BucketArn.ofName partition configuration.name.plain

def policy? (configuration : Configuration) : Option (List (StatementKind × Statement)) :=
  configuration.arn?.map fun arn => Policy.statements arn configuration

end Configuration

end BucketGuard
