import BucketGuard.Event
import BucketGuard.Settings
import BucketGuard.Trail

namespace BucketGuard

/-! Which events reach the log. Levels are numbers; an event is written if its level is above zero
and not below the threshold. -/

namespace Severity

def level : Severity → Int
  | .info => 20
  | .warning => 30
  | .error => 40

end Severity

namespace Logging

inductive Fault where
  /-- A word that names a setting of another kind, which is no level. -/
  | unknownLevel (value : String)
  /-- Something that is neither a number nor a word. -/
  | levelForm
  /-- An event with a further member under the name of a standard one. -/
  | memberTwice (name : String)
  deriving DecidableEq, Repr

namespace Fault

def message : Fault → String
  | .unknownLevel value => s!"Unknown level: {Text.literal value}"
  | .levelForm => "level must be an integer"
  | .memberTwice name => s!"multiple values for keyword argument {Text.literal name}"

end Fault

def levels : List (String × Int) :=
  [("CRITICAL", 50), ("FATAL", 50), ("ERROR", 40), ("WARNING", 30), ("WARN", 30), ("INFO", 20),
    ("DEBUG", 10), ("NOTSET", 0)]

/-- The layout of unstructured lines, which has a name like a level's and is none. -/
def basicLayout : String := "%(levelname)s:%(name)s:%(message)s"

/-- The threshold that a word in any case sets. A word that names nothing sets the usual one. -/
def threshold (word : String) : Except Fault Int :=
  let name := Text.upper word
  match Members.get? levels name with
  | some level => .ok level
  | none =>
      if name = "BASIC_FORMAT" then .error (.unknownLevel basicLayout)
      else if name = "_STYLES" then .error .levelForm
      else .ok Severity.info.level

def passes (threshold level : Int) : Bool := 0 < level && threshold ≤ level

def written (threshold : Int) (lines : List LogLine) : List String :=
  (lines.filter fun line => passes threshold line.severity.level).map (·.text)

/-! ## Events one by one -/

/-- An event and the level at which it is logged, if one is given beside it. -/
structure Entry where
  level : Option Json
  event : Event
  deriving DecidableEq, Repr

def standardNames : List String :=
  ["logger", "bucket_name", "environment", "event", "reason", "message"]

/-- The name under which a level may be given, beside the event or among its further members. -/
def levelName : String := "level"

/-- A level is an integer, and a truth value counts as zero or one. -/
def levelOf : Json → Except Fault Int
  | .int level => .ok level
  | .bool level => .ok (if level then 1 else 0)
  | _ => .error .levelForm

namespace Entry

/-- The level wherever it is given, or the usual one. It is given once at most. -/
def levelGiven (entry : Entry) : Except Fault Int :=
  match entry.level, Members.get? entry.event.further levelName with
  | none, none => .ok Severity.info.level
  | some level, none => levelOf level
  | none, some level => levelOf level
  | some _, some _ => .error (.memberTwice levelName)

def eventAlone (entry : Entry) : Event :=
  { entry.event with further := entry.event.further.filter (·.1 ≠ levelName) }

def line? (threshold : Int) (entry : Entry) : Except Fault (Option String) := do
  match entry.event.further.find? fun (name, _) => name ∈ standardNames with
  | some (name, _) => .error (.memberTwice name)
  | none =>
      let level ← entry.levelGiven
      return if passes threshold level then some entry.eventAlone.line else none

end Entry

def linesAt (threshold : Int) : List Entry → Except Fault (List String)
  | [] => .ok []
  | entry :: rest => do
      let line ← entry.line? threshold
      let lines ← linesAt threshold rest
      return line.toList ++ lines

def lines (word : String) (entries : List Entry) : Except Fault (List String) := do
  let threshold ← threshold word
  linesAt threshold entries

end Logging

end BucketGuard
