import BucketGuard.CommandLine

/-! The program: it leads the dialogue of a command with the real files and streams. -/

namespace BucketGuard.CommandLine

def environmentNames : List String :=
  ["BUCKET_POLICY_COMPILER_STRICT_OBJECT_LOCK", "BUCKET_POLICY_COMPILER_LOG_LEVEL",
    Settings.tracingVariable, "OTEL_SERVICE_NAME", "OTEL_SDK_DISABLED", "OTEL_TRACES_SAMPLER",
    "OTEL_TRACES_SAMPLER_ARG", "OTEL_SPAN_EVENT_COUNT_LIMIT", "OTEL_SPAN_LINK_COUNT_LIMIT",
    "OTEL_ATTRIBUTE_COUNT_LIMIT", "OTEL_SPAN_ATTRIBUTE_COUNT_LIMIT",
    "OTEL_EVENT_ATTRIBUTE_COUNT_LIMIT", "OTEL_LINK_ATTRIBUTE_COUNT_LIMIT",
    "OTEL_ATTRIBUTE_VALUE_LENGTH_LIMIT", "OTEL_SPAN_ATTRIBUTE_VALUE_LENGTH_LIMIT",
    "OTEL_BSP_MAX_QUEUE_SIZE", "OTEL_BSP_SCHEDULE_DELAY", "OTEL_BSP_MAX_EXPORT_BATCH_SIZE"]

def readEnvironment : IO Environment :=
  environmentNames.filterMapM fun name => do
    let value ← IO.getEnv name
    return value.map fun text => (name, text)

/-- The system's numbers for a path that leads through a file, and for one that is too long. -/
def notDirectoryCode : UInt32 := 20

def nameTooLongCode : UInt32 := 36

def faultOf : IO.Error → FileFault
  | .noFileOrDirectory .. => .missing
  | .inappropriateType _ code _ =>
      if code = notDirectoryCode then .notDirectory else .isDirectory
  | .invalidArgument _ code reason =>
      if code = nameTooLongCode then .nameTooLong else .other reason
  | error => .other (toString error)

def readInput : Input → IO (Except FileFault String)
  | .standard => do
      let stream ← IO.getStdin
      let text ← stream.readToEnd
      return .ok text
  | .file name => do
      try
        let text ← IO.FS.readFile name
        return .ok text
      catch error => return .error (faultOf error)

def writeText (name text : String) : IO (Except FileFault Unit) := do
  try
    IO.FS.writeFile name text
    return .ok ()
  catch error => return .error (faultOf error)

def finish (ending : Ending) : IO UInt32 := do
  IO.print ending.output
  IO.eprint ending.errors
  if let some crash := ending.crash then IO.eprintln crash.message
  return ending.exitCode.toUInt32

def lead : Dialogue → IO UInt32
  | .ended ending => finish ending
  | .read input next => do
      let answer ← readInput input
      lead (next answer)
  | .write name text next => do
      let answer ← writeText name text
      lead (next answer)

end BucketGuard.CommandLine

open BucketGuard.CommandLine in
def main (arguments : List String) : IO UInt32 := do
  let environment ← readEnvironment
  lead (run environment arguments)
