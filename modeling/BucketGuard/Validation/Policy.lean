import BucketGuard.Sid
import BucketGuard.Validation.Lifecycle

namespace BucketGuard

/-! What is wrong with custom statements and with the principals that are trusted. -/

namespace Json

/-- The items from an index on that are not text, or are empty. -/
def textErrors (path : Path) (problem : Json → Problem) (index : Nat) :
    List Json → List FieldError
  | [] => []
  | item :: rest =>
      (path.item index).flag (!item.isText) (problem item) ++
        textErrors path problem (index + 1) rest

end Json

namespace PrincipalSet

def isComplete (set : PrincipalSet) : Bool := set.kind.isGiven && !set.identifiers.isEmpty

def listErrors (path : Path) (index : Nat) : List PrincipalSet → List FieldError
  | [] => []
  | set :: rest =>
      (path.item index).flag (!set.isComplete) .principalIncomplete ++
        listErrors path (index + 1) rest

end PrincipalSet

namespace Statement

/-- What is wrong with a statement, its name apart. -/
def contentErrors (path : Path) (statement : Statement) : List FieldError :=
  (path.field "actions").flag statement.actions.isEmpty .actionsMissing ++
    Json.textErrors (path.field "actions") .actionForm 0 statement.actions ++
    (path.field "resources").flag statement.resources.isEmpty .resourcesMissing ++
    Json.textErrors (path.field "resources") .resourceForm 0 statement.resources ++
    (path.field "effect").flag (statement.effect ∉ effects.map Tree.str)
      (.effectUnknown statement.effect) ++
    PrincipalSet.listErrors (path.field "principals") 0 statement.principals

/-- What is wrong with the name of the statement at an index, after the names that were seen. -/
def sidErrors (path : Path) (seen : List String) (index : Nat) (sid : Json) :
    List FieldError :=
  match Sid.emitted? index sid with
  | none => [{ path, problem := .sidForm sid }]
  | some name =>
      if name ∈ Sid.baseline then [{ path, problem := .sidReserved name }]
      else path.flag (name ∈ seen) (.sidDuplicate name)

def listErrors (seen : List String) (index : Nat) : List Statement → List FieldError
  | [] => []
  | statement :: rest =>
      let path := (Path.ofRoot "custom_statements").item index
      statement.contentErrors path ++
        sidErrors (path.field "sid") seen index statement.sid ++
        listErrors ((Sid.emitted? index statement.sid).toList ++ seen) (index + 1) rest

end Statement

namespace Configuration

/-- Actions may be left out, but not given as an empty list. -/
def trustedErrors (configuration : Configuration) : List FieldError :=
  let path := Path.ofRoot "trusted_principal_actions"
  Json.textErrors (.ofRoot "trusted_principals") (fun _ => .trustedIdentifierForm) 0
      configuration.trustedPrincipals ++
    path.flag (configuration.trustedActions = some []) .trustedActionsMissing ++
    Json.textErrors path .actionForm 0 (configuration.trustedActions.getD [])

end Configuration

end BucketGuard
