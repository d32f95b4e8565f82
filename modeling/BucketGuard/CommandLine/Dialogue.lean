import BucketGuard.CommandLine.Files
import BucketGuard.Logging

namespace BucketGuard

/-! A command as a dialogue with its surroundings: it reads an input, writes a file, or ends. What
the answers are is left to whoever leads the dialogue. -/

namespace CommandLine

/-- A failure that the command does not report in its own words. -/
inductive Crash where
  | work (failure : Failure)
  | logging (fault : Logging.Fault)
  /-- A name with a null character, which no file can have. -/
  | nullInName
  | integerTooLong
  | nestedTooDeep
  deriving DecidableEq, Repr

namespace Crash

def message : Crash → String
  | .work failure => failure.message
  | .logging fault => fault.message
  | .nullInName => "embedded null byte"
  | .integerTooLong => "Exceeds the limit for integer string conversion"
  | .nestedTooDeep => "maximum recursion depth exceeded"

end Crash

structure Ending where
  exitCode : Nat
  output : String
  errors : String
  crash : Option Crash
  deriving DecidableEq, Repr

inductive Input where
  | standard
  | file (name : String)
  deriving DecidableEq, Repr

namespace Input

/-- A hyphen names the standard input. -/
def ofName (name : String) : Input := if name = "-" then .standard else .file name

def name : Input → String
  | .standard => "<stdin>"
  | .file name => name

def hasNull : Input → Bool
  | .standard => false
  | .file name => name.toList.contains '\x00'

end Input

inductive Dialogue where
  | ended (ending : Ending)
  | read (input : Input) (next : Except FileFault String → Dialogue)
  | write (name text : String) (next : Except FileFault Unit → Dialogue)

namespace Dialogue

/-- The dialogue with something told before it. -/
def tellFirst (errors : String) : Dialogue → Dialogue
  | .ended ending => .ended { ending with errors := errors ++ ending.errors }
  | .read input next => .read input fun answer => tellFirst errors (next answer)
  | .write name text next => .write name text fun answer => tellFirst errors (next answer)

/-- The dialogue over given files and a given standard input: how it ends, and the files then. -/
def runOn (files : Files) (standardInput : String) : Dialogue → Ending × Files
  | .ended ending => (ending, files)
  | .read .standard next => runOn files standardInput (next (.ok standardInput))
  | .read (.file name) next => runOn files standardInput (next (files.read name))
  | .write name text next =>
      match files.write name text with
      | .ok files => runOn files standardInput (next (.ok ()))
      | .error fault => runOn files standardInput (next (.error fault))

end Dialogue

end CommandLine

end BucketGuard
