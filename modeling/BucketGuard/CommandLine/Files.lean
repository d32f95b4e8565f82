import BucketGuard.Text.Parts

namespace BucketGuard

/-! Files by name, as a command sees them from the directory in which it runs. A name is followed
part by part. Outside that directory little is known: there are directories above it, the usual ones
below the top, and one file that is always empty. -/

namespace CommandLine

/-- Why a file cannot be read or written. -/
inductive FileFault where
  | missing
  | isDirectory
  | notDirectory
  | nameTooLong
  | other (reason : String)
  deriving DecidableEq, Repr

namespace FileFault

def message : FileFault → String
  | .missing => "No such file or directory"
  | .isDirectory => "Is a directory"
  | .notDirectory => "Not a directory"
  | .nameTooLong => "File name too long"
  | .other reason => reason

end FileFault

abbrev Place := List String

/-- Where places are counted from: the directory in which a command runs, some directory above it,
or the one above all others. -/
inductive Base where
  | working
  | above
  | top
  deriving DecidableEq, Repr

structure Spot where
  base : Base
  place : Place
  deriving DecidableEq, Repr

namespace Spot

def child (spot : Spot) (part : String) : Spot := { spot with place := spot.place ++ [part] }

/-- The directory that holds a spot. The topmost one holds itself. -/
def parent (spot : Spot) : Spot :=
  match spot.base, spot.place with
  | .working, [] => { base := .above, place := [] }
  | _, place => { spot with place := place.dropLast }

end Spot

/-! ## Names -/

def nameLimit : Nat := 4095

def partLimit : Nat := 255

def nameParts (name : String) : List String :=
  ((Text.splitOn '/' name.toList).map String.ofList).filter (· ≠ "")

/-- A slash at the end asks for a directory. -/
def asksDirectory (name : String) : Bool := name.toList.getLast? = some '/'

def nameStart (name : String) : Spot :=
  { base := if name.toList.head? = some '/' then .top else .working, place := [] }

def checkName (name : String) : Except FileFault Unit :=
  if name = "" then .error .missing
  else if nameLimit < name.utf8ByteSize then .error .nameTooLong
  else .ok ()

/-! ## Files -/

/-- Files below the working directory and their texts. A directory is there where a file is below
it. -/
abbrev Files := List (Place × String)

namespace Files

/-- The directories below the top one that every system has. -/
def systemDirectories : List String :=
  ["bin", "boot", "dev", "etc", "home", "lib", "media", "mnt", "opt", "proc", "root", "run", "sbin",
    "srv", "sys", "tmp", "usr", "var"]

/-- The file that is always empty, whatever is written to it. -/
def emptyFile : Place := ["dev", "null"]

def text? (files : Files) (place : Place) : Option String :=
  (files.find? (·.1 = place)).map (·.2)

def textAt? (files : Files) (spot : Spot) : Option String :=
  match spot.base with
  | .working => files.text? spot.place
  | .above => none
  | .top => if spot.place = emptyFile then some "" else none

def hasDirectory (files : Files) (spot : Spot) : Bool :=
  match spot.base, spot.place with
  | _, [] => true
  | .working, place => files.any fun (other, _) =>
      place.isPrefixOf other && place.length < other.length
  | .above, _ => false
  | .top, [name] => systemDirectories.contains name
  | .top, _ => false

/-- Only a directory has spots below it. -/
def requireDirectory (files : Files) (spot : Spot) : Except FileFault Unit :=
  if files.hasDirectory spot then .ok ()
  else if (files.textAt? spot).isSome then .error .notDirectory
  else .error .missing

/-- The spot that the parts of a name lead to, step by step from another one. One dot stays and two
dots lead back. -/
def walk (files : Files) (spot : Spot) : List String → Except FileFault Spot
  | [] => .ok spot
  | part :: rest => do
      files.requireDirectory spot
      if part = "." then walk files spot rest
      else if part = ".." then walk files spot.parent rest
      else if partLimit < part.utf8ByteSize then .error .nameTooLong
      else walk files (spot.child part) rest

def read (files : Files) (name : String) : Except FileFault String := do
  checkName name
  let spot ← files.walk (nameStart name) (nameParts name)
  if asksDirectory name then files.requireDirectory spot
  if files.hasDirectory spot then .error .isDirectory
  else
    match files.textAt? spot with
    | some text => .ok text
    | none => .error .missing

/-- A file that is there takes the new text and keeps its place. -/
def store (files : Files) (place : Place) (text : String) : Files :=
  match files with
  | [] => [(place, text)]
  | (other, old) :: rest =>
      if other = place then (other, text) :: rest else (other, old) :: store rest place text

/-- Nothing is kept of what is written outside the working directory. -/
def storeAt (files : Files) (spot : Spot) (text : String) : Files :=
  match spot.base with
  | .working => files.store spot.place text
  | _ => files

/-- The directory of a file must be there; the file itself need not. -/
def write (files : Files) (name text : String) : Except FileFault Files := do
  checkName name
  match (nameParts name).getLast? with
  | none => .error .isDirectory
  | some last => do
      let directory ← files.walk (nameStart name) (nameParts name).dropLast
      files.requireDirectory directory
      if asksDirectory name || last = "." || last = ".." then .error .isDirectory
      else do
        let spot ← files.walk directory [last]
        if files.hasDirectory spot then .error .isDirectory else .ok (files.storeAt spot text)

def ofNames (texts : List (String × String)) : Files :=
  texts.map fun (name, text) => (nameParts name, text)

/-- The files that are not among earlier ones with the same text, by name. -/
def changedSince (earlier files : Files) : List (String × String) :=
  (files.filter fun (place, text) => earlier.text? place ≠ some text).map
    fun (place, text) => (String.intercalate "/" place, text)

end Files

end CommandLine

end BucketGuard
