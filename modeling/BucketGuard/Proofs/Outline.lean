import BucketGuard.Proofs.Json.Tree
import BucketGuard.Proofs.Members
import BucketGuard.Validation

namespace BucketGuard

/-! What validation sees of a configuration: its values once they are ordered, and nothing of the
values of conditions. Errors stand at the same paths for configurations of one outline. -/

/-! ## Ordered values -/

namespace Json

variable {value : Json}

theorem ordered_eq_leaf_iff {scalar : Scalar} : value.ordered = .leaf scalar ↔ value = .leaf scalar := by
  cases value <;> simp [ordered]

@[simp] theorem isGiven_ordered : value.ordered.isGiven = value.isGiven := by
  cases value with
  | leaf scalar => rfl
  | arr items => cases items <;> rfl
  | obj members =>
      have isEmpty := (Members.sortBy_perm keyLess (orderedMembers members)).isEmpty_eq
      rw [orderedMembers_eq_map, List.isEmpty_map] at isEmpty
      rw [ordered, isGiven, isGiven, orderedMembers_eq_map, isEmpty]

@[simp] theorem isText_ordered : value.ordered.isText = value.isText := by
  cases value <;> rfl

@[simp] theorem int?_ordered : value.ordered.int? = value.int? := by
  cases value <;> rfl

@[simp] theorem str?_ordered : value.ordered.str? = value.str? := by
  cases value <;> rfl

@[simp] theorem count?_ordered : value.ordered.count? = value.count? := by
  rw [count?, count?, int?_ordered]

@[simp] theorem positive?_ordered : value.ordered.positive? = value.positive? := by
  rw [positive?, positive?, int?_ordered]

theorem ordered_mem_texts_iff {names : List String} :
    value.ordered ∈ names.map Tree.str ↔ value ∈ names.map Tree.str := by
  simp only [List.mem_map]
  refine exists_congr fun name => and_congr_right fun _ => ?_
  rw [eq_comm, ordered_eq_leaf_iff, eq_comm]

end Json

namespace Sid

@[simp] theorem emitted?_ordered (index : Nat) (sid : Json) :
    emitted? index sid.ordered = emitted? index sid := by
  cases sid <;> rfl

end Sid

/-! ## Outlines -/

namespace PrincipalSet

def ordered (set : PrincipalSet) : PrincipalSet :=
  { kind := set.kind.ordered, identifiers := set.identifiers.map Json.ordered }

end PrincipalSet

namespace Condition

/-- The values are text and stay as they are. -/
def ordered (condition : Condition) : Condition :=
  { condition with test := condition.test.ordered, key := condition.key.ordered }

/-- The condition without its values. -/
def outline (condition : Condition) : Condition := { condition.ordered with values := [] }

end Condition

namespace Statement

def ordered (statement : Statement) : Statement :=
  { sid := statement.sid.ordered
    effect := statement.effect.ordered
    principals := statement.principals.map PrincipalSet.ordered
    actions := statement.actions.map Json.ordered
    resources := statement.resources.map Json.ordered
    conditions := statement.conditions.map Condition.ordered }

def outline (statement : Statement) : Statement :=
  { statement.ordered with conditions := statement.conditions.map Condition.outline }

end Statement

namespace Transition

def ordered (transition : Transition) : Transition :=
  { afterDays := transition.afterDays.ordered, storageClass := transition.storageClass.ordered }

end Transition

namespace LifecycleRule

def ordered (rule : LifecycleRule) : LifecycleRule :=
  { id := rule.id.ordered
    enabled := rule.enabled.ordered
    keyPrefix := rule.keyPrefix.ordered
    transitions := rule.transitions.map Transition.ordered
    expirationDays := rule.expirationDays.ordered
    noncurrentTransitions := rule.noncurrentTransitions.map Transition.ordered
    noncurrentExpirationDays := rule.noncurrentExpirationDays.ordered
    abortUploadDays := rule.abortUploadDays.ordered }

end LifecycleRule

namespace CorsRule

def ordered (rule : CorsRule) : CorsRule :=
  { allowedOrigins := rule.allowedOrigins.map Json.ordered
    allowedMethods := rule.allowedMethods.map Json.ordered
    allowedHeaders := rule.allowedHeaders.map Json.ordered
    exposedHeaders := rule.exposedHeaders.map Json.ordered
    maxAgeSeconds := rule.maxAgeSeconds.ordered }

end CorsRule

namespace ObjectLock

def ordered (lock : ObjectLock) : ObjectLock :=
  { mode := lock.mode.ordered, retentionDays := lock.retentionDays.ordered }

end ObjectLock

namespace Configuration

/-- The configuration with its values ordered, without tags and without the values of conditions. -/
def outline (configuration : Configuration) : Configuration :=
  { name := configuration.name.ordered
    environment := configuration.environment.ordered
    encryptionKey := configuration.encryptionKey.ordered
    loggingBucket := configuration.loggingBucket.ordered
    loggingPrefix := configuration.loggingPrefix.ordered
    lockEnabled := configuration.lockEnabled.ordered
    lock := configuration.lock.map ObjectLock.ordered
    trustedPrincipals := configuration.trustedPrincipals.map Json.ordered
    trustedActions := configuration.trustedActions.map (·.map Json.ordered)
    lifecycleRules := configuration.lifecycleRules.map LifecycleRule.ordered
    statements := configuration.statements.map Statement.outline
    corsRules := configuration.corsRules.map CorsRule.ordered
    tags := [] }

end Configuration

/-! ## Paths of errors -/

/-- Where the errors stand. -/
def paths (errors : List FieldError) : List Path := errors.map FieldError.path

@[simp] theorem paths_nil : paths [] = [] := rfl

@[simp] theorem paths_append (first second : List FieldError) :
    paths (first ++ second) = paths first ++ paths second := List.map_append

@[simp] theorem paths_cons (error : FieldError) (errors : List FieldError) :
    paths (error :: errors) = error.path :: paths errors := rfl

@[simp] theorem paths_flag (path : Path) (flawed : Bool) (problem : Problem) :
    paths (path.flag flawed problem) = if flawed then [path] else [] := by
  cases flawed <;> rfl

namespace Json

@[simp] theorem paths_textErrors (path : Path) (problem : Json → Problem) (index : Nat)
    (items : List Json) :
    paths (textErrors path problem index (items.map ordered)) =
      paths (textErrors path problem index items) := by
  induction items generalizing index with
  | nil => rfl
  | cons item rest induction => simp [textErrors, induction]

end Json

namespace PrincipalSet

@[simp] theorem paths_listErrors (path : Path) (index : Nat) (sets : List PrincipalSet) :
    paths (listErrors path index (sets.map ordered)) = paths (listErrors path index sets) := by
  induction sets generalizing index with
  | nil => rfl
  | cons set rest induction => simp [listErrors, induction, isComplete, ordered]

end PrincipalSet

namespace Statement

theorem paths_contentErrors (path : Path) (statement : Statement) :
    paths (statement.outline.contentErrors path) = paths (statement.contentErrors path) := by
  simp [contentErrors, outline, ordered, Json.ordered_mem_texts_iff]

theorem paths_sidErrors (path : Path) (seen : List String) (index : Nat) (sid : Json) :
    paths (sidErrors path seen index sid.ordered) = paths (sidErrors path seen index sid) := by
  rw [sidErrors, sidErrors, Sid.emitted?_ordered]
  cases Sid.emitted? index sid <;> rfl

theorem paths_listErrors (seen : List String) (index : Nat) (statements : List Statement) :
    paths (listErrors seen index (statements.map outline)) =
      paths (listErrors seen index statements) := by
  induction statements generalizing seen index with
  | nil => rfl
  | cons statement rest induction =>
      have sid : statement.outline.sid = statement.sid.ordered := rfl
      simp only [List.map_cons, listErrors, paths_append, paths_contentErrors, sid,
        paths_sidErrors, Sid.emitted?_ordered, induction]

end Statement

namespace Transition

@[simp] theorem days?_ordered (transition : Transition) :
    transition.ordered.days? = transition.days? := Json.count?_ordered

@[simp] theorem lastDays?_ordered (transitions : List Transition) :
    lastDays? (transitions.map ordered) = lastDays? transitions := by
  rw [lastDays?, lastDays?, List.filterMap_map]
  exact congrArg (List.getLast? <| List.filterMap · transitions) (funext days?_ordered)

theorem paths_errors (path : Path) (previous : Option Int) (transition : Transition) :
    paths (transition.ordered.errors path previous) = paths (transition.errors path previous) := by
  have storage : transition.ordered.storageClass = transition.storageClass.ordered := rfl
  rw [errors, errors, days?_ordered]
  cases transition.days? with
  | none => rfl
  | some days => simp [classErrors, storage, Json.ordered_mem_texts_iff]

theorem paths_listErrors (path : Path) (previous : Option Int) (index : Nat)
    (transitions : List Transition) :
    paths (listErrors path previous index (transitions.map ordered)) =
      paths (listErrors path previous index transitions) := by
  induction transitions generalizing previous index with
  | nil => rfl
  | cons transition rest induction => simp [listErrors, paths_errors, induction]

end Transition

namespace LifecycleRule

theorem paths_expirationErrors (path : Path) (expiration : Json) (last : Option Int) :
    paths (expirationErrors path expiration.ordered last) =
      paths (expirationErrors path expiration last) := by
  simp only [expirationErrors, Json.ordered_eq_leaf_iff, Json.positive?_ordered]
  split
  · rfl
  · cases expiration.positive? <;> cases last <;> simp

theorem paths_scheduleErrors (path expirationPath : Path) (transitions : List Transition)
    (expiration : Json) :
    paths (scheduleErrors path expirationPath (transitions.map Transition.ordered)
        expiration.ordered) =
      paths (scheduleErrors path expirationPath transitions expiration) := by
  simp [scheduleErrors, Transition.paths_listErrors, paths_expirationErrors]

theorem isPeriod_ordered (days : Json) : isPeriod days.ordered = isPeriod days := by
  simp [isPeriod, Json.ordered_eq_leaf_iff]

theorem isSwitch_ordered (switch : Json) : isSwitch switch.ordered = isSwitch switch := by
  cases switch <;> rfl

theorem paths_errors (path : Path) (rule : LifecycleRule) :
    paths (rule.ordered.errors path) = paths (rule.errors path) := by
  simp [errors, ordered, paths_scheduleErrors, isPeriod_ordered, isSwitch_ordered]

theorem name?_ordered (rule : LifecycleRule) : rule.ordered.name? = rule.name? := by
  simp [name?, ordered]

theorem paths_listErrors (seen : List String) (index : Nat) (rules : List LifecycleRule) :
    paths (listErrors seen index (rules.map ordered)) = paths (listErrors seen index rules) := by
  induction rules generalizing seen index with
  | nil => rfl
  | cons rule rest induction =>
      simp [listErrors, duplicateErrors, paths_errors, name?_ordered, induction]

end LifecycleRule

namespace CorsRule

theorem isMethod_ordered (method : Json) : isMethod method.ordered = isMethod method := by
  simp [isMethod, Json.ordered_mem_texts_iff]

theorem isAge_ordered (seconds : Json) : isAge seconds.ordered = isAge seconds := by
  simp [isAge, Json.ordered_eq_leaf_iff]

theorem paths_errors (path : Path) (rule : CorsRule) :
    paths (rule.ordered.errors path) = paths (rule.errors path) := by
  simp [errors, ordered, isMethod_ordered, isAge_ordered]

theorem paths_listErrors (index : Nat) (rules : List CorsRule) :
    paths (listErrors index (rules.map ordered)) = paths (listErrors index rules) := by
  induction rules generalizing index with
  | nil => rfl
  | cons rule rest induction => simp [listErrors, paths_errors, induction]

end CorsRule

namespace Configuration

variable (configuration : Configuration)

theorem paths_nameErrors :
    paths configuration.outline.nameErrors = paths configuration.nameErrors := by
  have name : configuration.outline.name = configuration.name.ordered := rfl
  cases isName : configuration.name with
  | leaf value =>
      rw [isName] at name
      simp only [nameErrors, name, isName, Json.ordered]
  | arr items => simp only [nameErrors, name, isName, Json.ordered, paths_cons]
  | obj members => simp only [nameErrors, name, isName, Json.ordered, paths_cons]

theorem paths_lockErrors (strict : Bool) :
    paths (configuration.outline.lockErrors strict) = paths (configuration.lockErrors strict) := by
  have flag : configuration.outline.lockEnabled = configuration.lockEnabled.ordered := rfl
  have lock : configuration.outline.lock = configuration.lock.map ObjectLock.ordered := rfl
  simp only [lockErrors, ignoresLock, flag, lock, Json.ordered_eq_leaf_iff, Option.isSome_map]
  cases configuration.lockEnabled with
  | arr items => rfl
  | obj members => rfl
  | leaf value =>
      rw [Json.ordered]
      split
      · rfl
      · cases configuration.lock with
        | none => rfl
        | some lock => simp [ObjectLock.errors, ObjectLock.ordered, Json.ordered_mem_texts_iff]
      · rfl

theorem paths_trustedErrors :
    paths configuration.outline.trustedErrors = paths configuration.trustedErrors := by
  cases given : configuration.trustedActions with
  | none => simp [trustedErrors, outline, given, Json.textErrors]
  | some actions => simp [trustedErrors, outline, given]

/-- Configurations of one outline have errors at the same paths. -/
theorem paths_errors (strict : Bool) :
    paths (configuration.outline.errors strict) = paths (configuration.errors strict) := by
  have environment : paths configuration.outline.environmentErrors =
      paths configuration.environmentErrors := by
    simp [environmentErrors, outline, Json.ordered_mem_texts_iff]
  have encryptionKey : paths configuration.outline.encryptionKeyErrors =
      paths configuration.encryptionKeyErrors := by
    simp only [encryptionKeyErrors, outline, Json.isGiven_ordered, Json.str?_ordered]
  have logging : paths configuration.outline.loggingErrors =
      paths configuration.loggingErrors := by
    simp [loggingErrors, outline]
  have lifecycle : paths configuration.outline.lifecycleErrors =
      paths configuration.lifecycleErrors := LifecycleRule.paths_listErrors ..
  have statements : paths configuration.outline.statementErrors =
      paths configuration.statementErrors := Statement.paths_listErrors ..
  have cors : paths configuration.outline.corsErrors = paths configuration.corsErrors :=
    CorsRule.paths_listErrors ..
  simp only [errors, paths_append, paths_nameErrors, paths_lockErrors, paths_trustedErrors,
    environment, encryptionKey, logging, lifecycle, statements, cors]

end Configuration

end BucketGuard
