import BucketGuard.Json.Kind
import BucketGuard.Json.Printer

namespace BucketGuard

/-! Canonical text: the JSON text of a value whose members are sorted by key, so values that differ
in the order of members alone have one text. A rendered document may have numbers, booleans or null
for keys. Its keys are sorted before they are written, numbers by size and texts by code point, and
keys of different kinds have no order. -/

/-- A document whose objects may have any scalar for a key. -/
abbrev Document := Tree Scalar

inductive KeyFault where
  | composite (kind : Kind)
  | unordered (left right : Kind)
  deriving DecidableEq, Repr

namespace KeyFault

def message : KeyFault → String
  | .composite kind => s!"unhashable type: '{kind.name}'"
  | .unordered left right =>
      s!"'<' not supported between instances of '{left.name}' and '{right.name}'"

end KeyFault

namespace Scalar

/-- The number that a key stands for: a boolean stands for zero or one. -/
def magnitude? : Scalar → Option Magnitude
  | .bool value => some (.ofInt (if value then 1 else 0))
  | .int value => some (.ofInt value)
  | .float value => value.magnitude?
  | _ => none

def isNumber : Scalar → Bool
  | .bool _ | .int _ | .float _ => true
  | _ => false

/-- Keys that an object cannot tell apart: the same scalar, or numbers of one value. -/
def sameKey (left right : Scalar) : Bool :=
  left = right ||
    match left.magnitude?, right.magnitude? with
    | some left, some right => left.same right
    | _, _ => false

def comparable (left right : Scalar) : Bool :=
  match left, right with
  | .str _, .str _ => true
  | _, _ => left.isNumber && right.isNumber

/-- What is not a number is less than no number and greater than none. -/
def less (left right : Scalar) : Bool :=
  match left, right with
  | .str left, .str right => left < right
  | _, _ =>
      match left.magnitude?, right.magnitude? with
      | some left, some right => left.less right
      | _, _ => false

/-- A key that has no place among other numbers. -/
def isUnplaced : Scalar → Bool
  | .float .nan => true
  | _ => false

def keyText : Scalar → String
  | .str text => text
  | value => String.ofList (Json.writeScalar value)

end Scalar

namespace Members

/-- A member goes before the first one with a greater key. -/
def insertBy (less : κ → κ → Bool) (member : κ × α) : List (κ × α) → List (κ × α)
  | [] => [member]
  | other :: rest =>
      if less member.1 other.1 then member :: other :: rest
      else other :: insertBy less member rest

/-- Members sorted by key; members whose keys have no order keep theirs. -/
def sortBy (less : κ → κ → Bool) (members : List (κ × α)) : List (κ × α) :=
  members.foldl (fun sorted member => insertBy less member sorted) []

/-! Where some keys have no place in the order, no sorting is determined by the keys alone. The
members are then settled: a run at their front is taken as it is, or turned round if it goes down,
and every other member is put where halving the range before it leads. -/

/-- The place between two bounds to which halving leads: below a greater key, behind any other. The
bounds are apart by less than the fuel. -/
def settlePlace (less : κ → κ → Bool) (key : κ) (settled : List (κ × α)) : Nat → Nat → Nat → Nat
  | 0, low, _ => low
  | fuel + 1, low, high =>
      if high ≤ low then low
      else
        let middle := low + (high - low) / 2
        let isGreater := (settled[middle]?.map fun other => less key other.1).getD false
        if isGreater then settlePlace less key settled fuel low middle
        else settlePlace less key settled fuel (middle + 1) high

def settleOne (less : κ → κ → Bool) (settled : List (κ × α)) (member : κ × α) : List (κ × α) :=
  let place := settlePlace less member.1 settled (settled.length + 1) 0 settled.length
  settled.take place ++ member :: settled.drop place

/-- The members that go on as a run does, and those behind them. -/
def splitRun (goesOn : κ → κ → Bool) (last : κ) : List (κ × α) → List (κ × α) × List (κ × α)
  | [] => ([], [])
  | member :: rest =>
      if goesOn last member.1 then
        let (run, others) := splitRun goesOn member.1 rest
        (member :: run, others)
      else ([], member :: rest)

def settle (less : κ → κ → Bool) : List (κ × α) → List (κ × α)
  | first :: second :: rest =>
      let goesDown (last next : κ) : Bool := less next last
      if goesDown first.1 second.1 then
        let (run, others) := splitRun goesDown second.1 rest
        others.foldl (settleOne less) (first :: second :: run).reverse
      else
        let (run, others) := splitRun (fun last next => !goesDown last next) second.1 rest
        others.foldl (settleOne less) (first :: second :: run)
  | members => members

end Members

namespace Json

def keyLess (left right : String) : Bool := left < right

mutual
/-- The value with its members sorted by key at every level. -/
def ordered : Json → Json
  | .leaf value => .leaf value
  | .arr items => .arr (orderedItems items)
  | .obj members => .obj (Members.sortBy keyLess (orderedMembers members))

def orderedItems : List Json → List Json
  | [] => []
  | item :: rest => ordered item :: orderedItems rest

def orderedMembers : List (String × Json) → List (String × Json)
  | [] => []
  | (key, value) :: rest => (key, ordered value) :: orderedMembers rest
end

def canonical (layout : Layout) (value : Json) : String := value.ordered.print layout

/-- Canonical text in the layout that is asked for. Text on its own has no parts to set apart. -/
def canonicalAs? (request value : Json) : Option String :=
  match value with
  | .leaf (.str text) => some (canonical .compact (.str text))
  | value => (Layout.ofRequest? request).map value.canonical

end Json

namespace Document

mutual
def ofJson : Json → Document
  | .leaf value => .leaf value
  | .arr items => .arr (ofItems items)
  | .obj members => .obj (ofMembers members)

def ofItems : List Json → List Document
  | [] => []
  | item :: rest => ofJson item :: ofItems rest

def ofMembers : List (String × Json) → List (Scalar × Document)
  | [] => []
  | (key, value) :: rest => (.str key, ofJson value) :: ofMembers rest
end

/-- An object whose keys are all text. -/
def ofFields (fields : List (String × Document)) : Document :=
  .obj (fields.map fun (key, value) => (.str key, value))

/-- The first two keys in a row that have no order. -/
def orderFault? : List Scalar → Option KeyFault
  | first :: second :: rest =>
      if second.comparable first then orderFault? (second :: rest)
      else some (.unordered second.kind first.kind)
  | _ => none

/-- Members in the order in which they are written. -/
def arrange (members : List (Scalar × α)) : List (Scalar × α) :=
  if members.any (·.1.isUnplaced) then Members.settle Scalar.less members
  else Members.sortBy Scalar.less members

mutual
/-- The document as a value, its members sorted and its keys turned into text. -/
def ordered : Document → Except KeyFault Json
  | .leaf value => .ok (.leaf value)
  | .arr items => do
      let items ← orderedItems items
      return .arr items
  | .obj members => do
      let sorted ← match orderFault? (members.map Prod.fst) with
        | some fault => .error fault
        | none => orderedMembers members
      return .obj ((arrange sorted).map
        fun (key, value) => (key.keyText, value))

def orderedItems : List Document → Except KeyFault (List Json)
  | [] => .ok []
  | item :: rest => do
      let item ← ordered item
      let rest ← orderedItems rest
      return item :: rest

def orderedMembers : List (Scalar × Document) → Except KeyFault (List (Scalar × Json))
  | [] => .ok []
  | (key, value) :: rest => do
      let value ← ordered value
      let rest ← orderedMembers rest
      return (key, value) :: rest
end

def canonical (layout : Json.Layout) (document : Document) : Except KeyFault String :=
  document.ordered.map (·.print layout)

end Document

end BucketGuard
