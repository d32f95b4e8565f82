import BucketGuard.Configuration
import BucketGuard.Problem

namespace BucketGuard

/-! What is wrong with lifecycle rules. Within a list of transitions the days must increase; a
transition whose days are no count is reported and takes no part in the order. -/

namespace Transition

def days? (transition : Transition) : Option Int := transition.afterDays.count?

def classErrors (path : Path) (transition : Transition) : List FieldError :=
  (path.field "storage_class").flag (transition.storageClass ∉ storageClasses.map Tree.str)
    (.storageClassUnknown transition.storageClass)

def orderErrors (path : Path) (days : Int) : Option Int → List FieldError
  | some previous =>
      (path.field "after_days").flag (days ≤ previous) (.transitionOrder days previous)
  | none => []

/-- A transition after the days of the last one whose days are a count. -/
def errors (path : Path) (previous : Option Int) (transition : Transition) : List FieldError :=
  match transition.days? with
  | none =>
      [{ path := path.field "after_days", problem := .transitionDays transition.afterDays }]
  | some days => transition.classErrors path ++ orderErrors path days previous

def listErrors (path : Path) (previous : Option Int) (index : Nat) :
    List Transition → List FieldError
  | [] => []
  | transition :: rest =>
      transition.errors (path.item index) previous ++
        listErrors path (transition.days?.or previous) (index + 1) rest

/-- The days of the last transition whose days are a count. -/
def lastDays? (transitions : List Transition) : Option Int :=
  (transitions.filterMap days?).getLast?

end Transition

namespace LifecycleRule

/-- An expiration comes after the last transition. -/
def expirationErrors (path : Path) (expiration : Json) (last : Option Int) : List FieldError :=
  if expiration = .null then []
  else
    match expiration.positive?, last with
    | none, _ => [{ path, problem := .expirationDays expiration }]
    | some days, some previous => path.flag (days ≤ previous) (.expirationOrder days previous)
    | some _, none => []

def scheduleErrors (path expirationPath : Path) (transitions : List Transition)
    (expiration : Json) : List FieldError :=
  Transition.listErrors path none 0 transitions ++
    expirationErrors expirationPath expiration (Transition.lastDays? transitions)

/-- Days that may be left out, and are above zero otherwise. -/
def isPeriod (days : Json) : Bool := days = .null || days.positive?.isSome

def isSwitch : Json → Bool
  | .bool _ => true
  | _ => false

/-- What is wrong with a rule on its own. -/
def errors (path : Path) (rule : LifecycleRule) : List FieldError :=
  (path.field "id").flag (!rule.id.isText) .ruleIdMissing ++
    (path.field "enabled").flag (!isSwitch rule.enabled) (.ruleStatus rule.enabled) ++
    scheduleErrors (path.field "transitions") (path.field "expiration_after_days")
      rule.transitions rule.expirationDays ++
    scheduleErrors (path.field "noncurrent_transitions")
      (path.field "noncurrent_expiration_after_days")
      rule.noncurrentTransitions rule.noncurrentExpirationDays ++
    (path.field "abort_incomplete_multipart_upload_days").flag
      (!isPeriod rule.abortUploadDays) (.abortDays rule.abortUploadDays)

def name? (rule : LifecycleRule) : Option String := rule.id.str?.filter (· ≠ "")

/-- A name that an earlier rule has. -/
def duplicateErrors (path : Path) (seen : List String) (rule : LifecycleRule) :
    List FieldError :=
  match rule.name? with
  | some name => (path.field "id").flag (name ∈ seen) (.ruleIdDuplicate name)
  | none => []

def listErrors (seen : List String) (index : Nat) : List LifecycleRule → List FieldError
  | [] => []
  | rule :: rest =>
      let path := (Path.ofRoot "lifecycle_rules").item index
      rule.errors path ++ rule.duplicateErrors path seen ++
        listErrors (rule.name?.toList ++ seen) (index + 1) rest

end LifecycleRule

end BucketGuard
