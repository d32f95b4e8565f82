import BucketGuard.Json

namespace BucketGuard

/-! Connections to the storage service: where it is, and who asks. -/

structure Connection where
  region : Json
  endpoint : Json
  accessKey : Json
  secretKey : Json
  sessionToken : Json
  /-- Whether a bucket stands in the path of an address. -/
  pathStyle : Json
  deriving DecidableEq, Repr

namespace Connection

def argumentNames : List String :=
  ["region", "endpoint", "access_key", "secret_key", "session_token", "path_style"]

/-- A connection from named arguments. The region must be given and nothing unknown may be. -/
def ofArguments? (arguments : List (String × Json)) : Option Connection :=
  if arguments.all (fun (name, _) => name ∈ argumentNames) then do
    let region ← Members.get? arguments "region"
    return {
      region
      endpoint := Json.field arguments "endpoint"
      accessKey := Json.field arguments "access_key"
      secretKey := Json.field arguments "secret_key"
      sessionToken := Json.field arguments "session_token"
      pathStyle := (Members.get? arguments "path_style").getD (.bool false) }
  else none

def addressingStyle (connection : Connection) : String :=
  if connection.pathStyle.isGiven then "path" else "auto"

def settings (connection : Connection) : List (String × Json) :=
  [("service", .str "s3"),
    ("endpoint_url", connection.endpoint),
    ("region_name", connection.region),
    ("aws_access_key_id", connection.accessKey),
    ("aws_secret_access_key", connection.secretKey),
    ("aws_session_token", connection.sessionToken),
    ("signature_version", .str "s3v4"),
    ("s3", .obj [("addressing_style", .str connection.addressingStyle)])]

end Connection

end BucketGuard
