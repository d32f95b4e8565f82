import BucketGuard.Json
import BucketGuard.Text.LetterCase

namespace BucketGuard

/-! Settings that the environment gives. -/

abbrev Environment := List (String × String)

namespace Environment

def valueOr (environment : Environment) (name default : String) : String :=
  (Members.get? environment name).getD default

end Environment

structure Settings where
  strictLock : Bool
  logLevel : String
  tracing : Bool
  deriving DecidableEq, Repr

namespace Settings

def tracingVariable : String := "OTEL_TRACES_ENABLED"

/-- A flag is raised by one of three words in any case; an unset flag is down. -/
def flag (environment : Environment) (name : String) : Bool :=
  Text.lower (environment.valueOr name "false") ∈ ["1", "true", "yes"]

def ofEnvironment (environment : Environment) : Settings :=
  { strictLock := flag environment "BUCKET_POLICY_COMPILER_STRICT_OBJECT_LOCK"
    logLevel := Text.upper (environment.valueOr "BUCKET_POLICY_COMPILER_LOG_LEVEL" "INFO")
    tracing := flag environment tracingVariable }

end Settings

end BucketGuard
