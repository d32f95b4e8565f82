import BucketGuard.Text.Literal
import BucketGuard.Text.Resemblance

namespace BucketGuard

/-! Switches among the arguments of a command. A long switch is introduced by two hyphens and
carries its value behind an equals sign or as the next argument; letters behind one hyphen stand for
switches too, and the rest of such a cluster may be a value. Two hyphens alone end the switches. -/

namespace CommandLine

structure Switch where
  name : String
  letter : Option Char
  takesValue : Bool
  deriving DecidableEq, Repr

/-- Names that may have been meant, each quoted, behind a message. -/
def suggestion : List String → String
  | [] => ""
  | [name] => s!" Did you mean {Text.literal name}?"
  | names =>
      let list := String.intercalate ", " (names.map Text.literal)
      s!" (Did you mean one of: {list}?)"

inductive SwitchFault where
  | unknown (name : String) (similar : List String)
  | valueMissing (name : String)
  | valueUnwanted (name : String)
  deriving DecidableEq, Repr

namespace SwitchFault

def message : SwitchFault → String
  | .unknown name similar => s!"No such option {Text.literal name}." ++ suggestion similar
  | .valueMissing name => s!"Option {Text.literal name} requires an argument."
  | .valueUnwanted name => s!"Option {Text.literal name} does not take a value."

end SwitchFault

structure Given where
  name : String
  value : Option String
  deriving DecidableEq, Repr

structure Arguments where
  switches : List Given
  words : List String
  deriving DecidableEq, Repr

namespace Arguments

def has (arguments : Arguments) (name : String) : Bool :=
  arguments.switches.any (·.name = name)

def last? (arguments : Arguments) (name : String) : Option String :=
  (arguments.switches.filter (·.name = name)).getLast?.bind (·.value)

def withSwitches (given : List Given) (arguments : Arguments) : Arguments :=
  { arguments with switches := given ++ arguments.switches }

def withWord (word : String) (arguments : Arguments) : Arguments :=
  { arguments with words := word :: arguments.words }

end Arguments

/-- What one argument says: its switches, and perhaps one more that takes the next argument, under
its own name and the spelling that was used. -/
structure Cluster where
  given : List Given
  pending : Option (String × String)
  deriving DecidableEq, Repr

/-- A long name and what stands behind its equals sign. -/
def splitValue (argument : String) : String × Option String :=
  let letters := argument.toList
  match letters.dropWhile (· ≠ '=') with
  | [] => (argument, none)
  | _ :: value =>
      (String.ofList (letters.takeWhile (· ≠ '=')), some (String.ofList value))

def readLong (switch : Switch) (value : Option String) : Except SwitchFault Cluster :=
  match switch.takesValue, value with
  | true, none => .ok { given := [], pending := some (switch.name, switch.name) }
  | false, some _ => .error (.valueUnwanted switch.name)
  | _, value => .ok { given := [{ name := switch.name, value }], pending := none }

def readLetters (known : List Switch) : List Char → Except SwitchFault Cluster
  | [] => .ok { given := [], pending := none }
  | letter :: rest =>
      let spelling := String.ofList ['-', letter]
      match known.find? (·.letter = some letter) with
      | none => .error (.unknown spelling [])
      | some switch =>
          if !switch.takesValue then do
            let cluster ← readLetters known rest
            return { cluster with
              given := { name := switch.name, value := none } :: cluster.given }
          else if rest.isEmpty then
            .ok { given := [], pending := some (switch.name, spelling) }
          else
            .ok {
              given := [{ name := switch.name, value := some (String.ofList rest) }]
              pending := none }

def readSwitch (known : List Switch) (argument : String) : Except SwitchFault Cluster :=
  let (name, value) := splitValue argument
  match known.find? (·.name = name) with
  | some switch => readLong switch value
  | none =>
      match argument.toList with
      | '-' :: '-' :: _ => .error (.unknown name (Text.resembling name (known.map (·.name))))
      | _ :: letters => readLetters known letters
      | [] => .ok { given := [], pending := none }

/-- A hyphen alone is a word. -/
def isSwitch (argument : String) : Bool :=
  match argument.toList with
  | '-' :: _ :: _ => true
  | _ => false

/-- Sorts arguments behind a switch that may take the first of them as its value. -/
def sortBehind (known : List Switch) (mingled : Bool) :
    Option (String × String) → List String → Except SwitchFault Arguments
  | none, [] => .ok { switches := [], words := [] }
  | some (_, spelling), [] => .error (.valueMissing spelling)
  | some (name, _), value :: rest => do
      let others ← sortBehind known mingled none rest
      return others.withSwitches [{ name, value := some value }]
  | none, argument :: rest =>
      if argument = "--" then .ok { switches := [], words := rest }
      else if isSwitch argument then do
        let cluster ← readSwitch known argument
        let others ← sortBehind known mingled cluster.pending rest
        return others.withSwitches cluster.given
      else if mingled then do
        let others ← sortBehind known mingled none rest
        return others.withWord argument
      else .ok { switches := [], words := argument :: rest }

/-- Sorts arguments. Switches may follow words if they are mingled; otherwise the first word ends
them. -/
def sortArguments (known : List Switch) (mingled : Bool) (arguments : List String) :
    Except SwitchFault Arguments :=
  sortBehind known mingled none arguments

end CommandLine

end BucketGuard
