import BucketGuard.CommandLine.Dialogue
import BucketGuard.CommandLine.Switches
import BucketGuard.Json.Reader
import BucketGuard.Session
import BucketGuard.Text.ControlSequence
import BucketGuard.Tracing

namespace BucketGuard

/-! The commands: one compiles a configuration file and writes the artifact, the other only
validates it. Nothing is written before everything that can go wrong with the configuration has been
settled. What a command says itself is free of control sequences. -/

namespace CommandLine

def shown (message : String) : String := String.ofList (Text.withoutSequences message.toList)

def errorLine (message : String) : String := shown s!"Error: {message}\n"

/-! ## Usage -/

structure Usage where
  path : String
  synopsis : String
  help : String
  switches : List Switch
  deriving DecidableEq, Repr

def program : String := "bucket-policy-compiler"

def helpSwitch : Switch := { name := "--help", letter := none, takesValue := false }

def strictSwitch : Switch :=
  { name := "--strict-object-lock", letter := none, takesValue := false }

def outputSwitch : Switch := { name := "--output", letter := some 'o', takesValue := true }

def prettySwitch : Switch := { name := "--pretty", letter := none, takesValue := false }

def programUsage : Usage :=
  { path := program
    synopsis := "[OPTIONS] COMMAND [ARGS]..."
    help :=
      "  Compile bucket security configurations into policy and lifecycle documents.\n\n" ++
        "Options:\n" ++
        "  --strict-object-lock  Reject object lock settings supplied while object lock\n" ++
        "                        is disabled.\n" ++
        "  --help                Show this message and exit.\n\n" ++
        "Commands:\n" ++
        "  compile   Compile CONFIG_FILE and write the artifact as JSON.\n" ++
        "  validate  Validate CONFIG_FILE without compiling it.\n"
    switches := [strictSwitch, helpSwitch] }

inductive Command where
  | compile
  | validate
  deriving DecidableEq, Repr

namespace Command

def ofName? (name : String) : Option Command :=
  if name = "compile" then some .compile
  else if name = "validate" then some .validate
  else none

def names : List String := ["compile", "validate"]

def usage : Command → Usage
  | .compile =>
      { path := program ++ " compile"
        synopsis := "[OPTIONS] CONFIG_FILE"
        help :=
          "  Compile CONFIG_FILE and write the artifact as JSON.\n\n" ++
            "Options:\n" ++
            "  -o, --output FILENAME  Where to write the artifact JSON.\n" ++
            "  --pretty               Indent the JSON output.\n" ++
            "  --help                 Show this message and exit.\n"
        switches := [outputSwitch, prettySwitch, helpSwitch] }
  | .validate =>
      { path := program ++ " validate"
        synopsis := "[OPTIONS] CONFIG_FILE"
        help :=
          "  Validate CONFIG_FILE without compiling it.\n\n" ++
            "Options:\n" ++
            "  --help  Show this message and exit.\n"
        switches := [helpSwitch] }

end Command

inductive UsageFault where
  | switch (fault : SwitchFault)
  | commandMissing
  | commandUnknown (name : String) (similar : List String)
  | inputMissing
  | inputUnreadable (name : String) (fault : FileFault)
  | wordsLeft (words : List String)
  deriving DecidableEq, Repr

namespace UsageFault

def message : UsageFault → String
  | .switch fault => fault.message
  | .commandMissing => "Missing command."
  | .commandUnknown name similar => s!"No such command {Text.literal name}." ++ suggestion similar
  | .inputMissing => "Missing argument 'CONFIG_FILE'."
  | .inputUnreadable name fault => s!"Invalid value for 'CONFIG_FILE': '{name}': {fault.message}"
  | .wordsLeft words =>
      let noun := if words.length = 1 then "argument" else "arguments"
      let list := String.intercalate " " words
      s!"Got unexpected extra {noun} ({list})"

end UsageFault

namespace Usage

def line (usage : Usage) : String := s!"Usage: {usage.path} {usage.synopsis}\n"

def helpText (usage : Usage) : String := usage.line ++ "\n" ++ usage.help

def helped (usage : Usage) : Ending :=
  { exitCode := 0, output := usage.helpText, errors := "", crash := none }

def refused (usage : Usage) (fault : UsageFault) : Ending :=
  { exitCode := 2
    output := ""
    errors := usage.line ++ s!"Try '{usage.path} --help' for help.\n\n" ++
      errorLine fault.message
    crash := none }

end Usage

/-! ## Work -/

namespace Ending

def done (output errors : String) : Ending := { exitCode := 0, output, errors, crash := none }

def failed (errors : String) : Ending := { exitCode := 1, output := "", errors, crash := none }

/-- The work failed for a reason that only the surroundings can tell. -/
def crashed (errors : String) (crash : Crash) : Ending :=
  { exitCode := 1, output := "", errors, crash := some crash }

end Ending

/-- What the environment and the switches before the command settle. -/
structure Posture where
  strict : Bool
  threshold : Int
  deriving DecidableEq, Repr

/-- All the problems of a configuration, a line each. -/
def report (rejection : Rejection) : String :=
  let count := rejection.errors.length
  s!"Configuration is invalid ({count} problem(s)):\n" ++
    String.join (rejection.errors.map fun error => shown s!"  - {error.line}\n")

def inputLimits : Json.ReadLimits := { digits := some Text.integerDigits, depth := some 980 }

/-- An input whose text cannot be read. That it goes beyond the limits is not told. -/
def unreadable (input : Input) (text : List Char) (fault : Json.ReadFault) : Ending :=
  match fault.problem with
  | .integerTooLong => .crashed "" .integerTooLong
  | .nestedTooDeep => .crashed "" .nestedTooDeep
  | _ => .failed (errorLine s!"{input.name} is not valid JSON: {fault.message text}")

/-- The specification in the text of an input, or how the command ends without one. -/
def specification (input : Input) (text : String) : Except Ending (List (String × Json)) :=
  let text := Text.withLineFeeds text.toList
  match Json.readWithin inputLimits text with
  | .error fault => .error (unreadable input text fault)
  | .ok (.obj members) => .ok members
  | .ok _ => .error (.failed (errorLine s!"{input.name} must contain a JSON object"))

def logText (posture : Posture) (lines : List LogLine) : String :=
  String.join ((Logging.written posture.threshold lines).map (· ++ "\n"))

def endFailed (log : String) : Failure → Ending
  | .rejected rejection => .failed (log ++ report rejection)
  | failure => .crashed log (.work failure)

def validateEnding (posture : Posture) (members : List (String × Json)) : Ending :=
  let outcome : Outcome Configuration := do
    let configuration ← Outcome.ofExcept
      ((Specification.configuration members).mapError .rejected)
    configuration.validate posture.strict
    return configuration
  let log := logText posture outcome.trail.lines
  match outcome.result with
  | .ok configuration =>
      .done (shown s!"Configuration for bucket {configuration.name.plain} is valid.\n") log
  | .error failure => endFailed log failure

/-- What comes of opening a file to write to. -/
def afterOpening (log name : String) (ending : Ending) : Except FileFault Unit → Dialogue
  | .ok () => .ended ending
  | .error fault =>
      let message := s!"Could not open file {Text.literal name}: {fault.message}"
      .ended (.failed (log ++ errorLine message))

/-- A text goes to the output or to a file. The file is opened before there is a text, so it would
be left empty if there were none. -/
def deliver (log target : String) (rendered : Except KeyFault String) : Dialogue :=
  let output := Input.ofName target
  if output.hasNull then .ended (.crashed log .nullInName)
  else
    match output, rendered with
    | .standard, .ok text => .ended (.done (text ++ "\n") log)
    | .standard, .error fault => .ended (endFailed log (.unwritable fault))
    | .file name, .ok text => .write name (text ++ "\n") (afterOpening log name (.done "" log))
    | .file name, .error fault =>
        .write name "" (afterOpening log name (endFailed log (.unwritable fault)))

def compileDialogue (posture : Posture) (pretty : Bool) (target : String)
    (members : List (String × Json)) : Dialogue :=
  let layout : Json.Layout := if pretty then .ofWidth 2 else .compact
  let outcome := Session.compile members posture.strict false
  let log := logText posture outcome.trail.lines
  match outcome.result with
  | .error failure => .ended (endFailed log failure)
  | .ok (artifact, _) => deliver log target (artifact.sealed layout)

/-! ## Dialogues -/

def Command.work (command : Command) (posture : Posture) (arguments : Arguments)
    (members : List (String × Json)) : Dialogue :=
  match command with
  | .compile =>
      compileDialogue posture (arguments.has prettySwitch.name)
        ((arguments.last? outputSwitch.name).getD "-") members
  | .validate => .ended (validateEnding posture members)

/-- A command with its own arguments. The input is read before words that are left over are refused.
-/
def Command.run (command : Command) (posture : Posture) (arguments : List String) : Dialogue :=
  match sortArguments command.usage.switches true arguments with
  | .error fault => .ended (command.usage.refused (.switch fault))
  | .ok arguments =>
      if arguments.has helpSwitch.name then .ended command.usage.helped
      else
        match arguments.words with
        | [] => .ended (command.usage.refused .inputMissing)
        | name :: words =>
            let input := Input.ofName name
            if input.hasNull then .ended (.crashed "" .nullInName)
            else
              .read input fun
                | .error fault => .ended (command.usage.refused (.inputUnreadable name fault))
                | .ok text =>
                    if !words.isEmpty then .ended (command.usage.refused (.wordsLeft words))
                    else
                      match specification input text with
                      | .error ending => .ended ending
                      | .ok members => command.work posture arguments members

/-- A word that is no command may still be a switch that was set apart from the others. -/
def refuseCommand (name : String) (words : List String) : Ending :=
  match sortArguments programUsage.switches false words with
  | .error fault => programUsage.refused (.switch fault)
  | .ok arguments =>
      if arguments.has helpSwitch.name then programUsage.helped
      else programUsage.refused (.commandUnknown name (Text.resembling name Command.names))

/-- What setting up tracing tells, if the settings ask for it. -/
def tracingLines (environment : Environment) (settings : Settings) : List LogLine :=
  if settings.tracing then
    Tracing.notices environment Tracing.defaultService ++
      (Tracing.start environment Tracing.defaultService none).lines
  else []

def run (environment : Environment) (arguments : List String) : Dialogue :=
  match sortArguments programUsage.switches false arguments with
  | .error fault => .ended (programUsage.refused (.switch fault))
  | .ok sorted =>
      if arguments.isEmpty then
        .ended { exitCode := 2, output := "", errors := programUsage.helpText, crash := none }
      else if sorted.has helpSwitch.name then .ended programUsage.helped
      else
        match sorted.words with
        | [] => .ended (programUsage.refused .commandMissing)
        | name :: words =>
            match Command.ofName? name with
            | none => .ended (refuseCommand name (name :: words))
            | some command =>
                let settings := Settings.ofEnvironment environment
                match Logging.threshold settings.logLevel with
                | .error fault => .ended (.crashed "" (.logging fault))
                | .ok threshold =>
                    let strict := settings.strictLock || sorted.has strictSwitch.name
                    let posture : Posture := { strict, threshold }
                    (command.run posture words).tellFirst
                      (logText posture (tracingLines environment settings))

end CommandLine

end BucketGuard
