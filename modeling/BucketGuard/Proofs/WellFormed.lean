import BucketGuard.Proofs.Compilation
import BucketGuard.Proofs.Json.WellFormed

namespace BucketGuard

/-! Configurations whose values are as reading gives them. A specification that was read holds only
well-formed values, reading it into a configuration drops and replaces values but builds no others,
and the policy adds nothing but text. -/

/-! ## Records of values -/

/-- All the values are well formed. -/
abbrev Json.AllWellFormed (values : List Json) : Prop := ∀ value ∈ values, value.WellFormed

structure PrincipalSet.WellFormed (set : PrincipalSet) : Prop where
  kind : set.kind.WellFormed
  identifiers : Json.AllWellFormed set.identifiers

structure Condition.WellFormed (condition : Condition) : Prop where
  test : condition.test.WellFormed
  key : condition.key.WellFormed
  values : Json.AllWellFormed condition.values

structure Statement.WellFormed (statement : Statement) : Prop where
  sid : statement.sid.WellFormed
  effect : statement.effect.WellFormed
  principals : ∀ set ∈ statement.principals, set.WellFormed
  actions : Json.AllWellFormed statement.actions
  resources : Json.AllWellFormed statement.resources
  conditions : ∀ condition ∈ statement.conditions, condition.WellFormed

structure Transition.WellFormed (transition : Transition) : Prop where
  afterDays : transition.afterDays.WellFormed
  storageClass : transition.storageClass.WellFormed

structure LifecycleRule.WellFormed (rule : LifecycleRule) : Prop where
  id : rule.id.WellFormed
  keyPrefix : rule.keyPrefix.WellFormed
  transitions : ∀ transition ∈ rule.transitions, transition.WellFormed
  expirationDays : rule.expirationDays.WellFormed
  noncurrentTransitions : ∀ transition ∈ rule.noncurrentTransitions, transition.WellFormed
  noncurrentExpirationDays : rule.noncurrentExpirationDays.WellFormed
  abortUploadDays : rule.abortUploadDays.WellFormed

structure ObjectLock.WellFormed (lock : ObjectLock) : Prop where
  mode : lock.mode.WellFormed
  retentionDays : lock.retentionDays.WellFormed

structure CorsRule.WellFormed (rule : CorsRule) : Prop where
  allowedOrigins : Json.AllWellFormed rule.allowedOrigins
  allowedMethods : Json.AllWellFormed rule.allowedMethods
  allowedHeaders : Json.AllWellFormed rule.allowedHeaders
  exposedHeaders : Json.AllWellFormed rule.exposedHeaders
  maxAgeSeconds : rule.maxAgeSeconds.WellFormed

/-- What goes into the artifact is well formed. -/
structure Configuration.WellFormed (configuration : Configuration) : Prop where
  encryptionKey : configuration.encryptionKey.WellFormed
  loggingBucket : configuration.loggingBucket.WellFormed
  loggingPrefix : configuration.loggingPrefix.WellFormed
  lock : ∀ lock ∈ configuration.lock, lock.WellFormed
  trustedPrincipals : Json.AllWellFormed configuration.trustedPrincipals
  trustedActions : ∀ actions ∈ configuration.trustedActions, Json.AllWellFormed actions
  lifecycleRules : ∀ rule ∈ configuration.lifecycleRules, rule.WellFormed
  statements : ∀ statement ∈ configuration.statements, statement.WellFormed
  corsRules : ∀ rule ∈ configuration.corsRules, rule.WellFormed

structure Artifact.WellFormed (artifact : Artifact) : Prop where
  encryptionKey : artifact.encryptionKey.WellFormed
  statements : ∀ statement ∈ artifact.statements, statement.WellFormed
  lifecycleRules : ∀ rule ∈ artifact.lifecycleRules, rule.WellFormed
  lock : ∀ lock ∈ artifact.lock, lock.WellFormed
  loggingBucket : artifact.loggingBucket.WellFormed
  loggingPrefix : artifact.loggingPrefix.WellFormed
  corsRules : ∀ rule ∈ artifact.corsRules, rule.WellFormed

/-! ## Reading a specification -/

namespace Specification

abbrev FieldsWellFormed (fields : Fields) : Prop := Json.WellFormed (.obj fields)

variable {fields : Fields}

theorem wellFormed_of_get? (wellFormed : FieldsWellFormed fields) {key : String} {value : Json}
    (found : Members.get? fields key = some value) : value.WellFormed := by
  rcases Tree.every_obj_iff.mp wellFormed with ⟨nodup, values⟩
  exact values (key, value) ((Members.get?_eq_some_iff nodup).mp found)

theorem fieldOr_wellFormed (wellFormed : FieldsWellFormed fields) (key : String) {default : Json}
    (ofDefault : default.WellFormed) : (fieldOr fields key default).WellFormed := by
  rw [fieldOr]
  cases found : Members.get? fields key with
  | none => exact ofDefault
  | some value => exact wellFormed_of_get? wellFormed found

theorem field_wellFormed (wellFormed : FieldsWellFormed fields) (key : String) :
    (Json.field fields key).WellFormed := fieldOr_wellFormed wellFormed key (.leaf trivial)

theorem fieldsAt_wellFormed (wellFormed : FieldsWellFormed fields) (key : String) (path : Path) :
    FieldsWellFormed (fieldsAt fields key path).value := by
  have ofField := field_wellFormed wellFormed key
  rw [fieldsAt]
  split
  · exact Json.wellFormed_obj_nil
  · rename_i members isObject
    rwa [isObject] at ofField
  · exact Json.wellFormed_obj_nil

private theorem objectsFrom_wellFormed (path : Path) (index : Nat) {items : List Json}
    (wellFormed : Json.AllWellFormed items) :
    ∀ object ∈ (objectsFrom path index items).value, FieldsWellFormed object.2 := by
  induction items generalizing index with
  | nil => exact fun _ member => nomatch member
  | cons item rest induction =>
      rcases List.forall_mem_cons.mp wellFormed with ⟨first, others⟩
      cases item with
      | leaf value => exact induction _ others
      | arr items => exact induction _ others
      | obj members => exact List.forall_mem_cons.mpr ⟨first, induction _ others⟩

theorem objectsAt_wellFormed (wellFormed : FieldsWellFormed fields) (key : String) (path : Path) :
    ∀ object ∈ (objectsAt fields key path).value, FieldsWellFormed object.2 := by
  have ofField := field_wellFormed wellFormed key
  rw [objectsAt]
  split
  · exact fun _ member => nomatch member
  · rename_i items isList
    rw [isList] at ofField
    exact objectsFrom_wellFormed path 0 (Tree.every_arr_iff.mp ofField)
  · exact fun _ member => nomatch member

theorem asList_wellFormed {value : Json} (wellFormed : value.WellFormed) :
    Json.AllWellFormed (asList value) := by
  unfold asList
  split
  · exact fun _ member => nomatch member
  · exact Tree.every_arr_iff.mp wellFormed
  · exact List.forall_mem_singleton.mpr wellFormed

theorem transition_wellFormed (wellFormed : FieldsWellFormed fields) :
    (transition fields).WellFormed where
  afterDays := field_wellFormed wellFormed _
  storageClass := field_wellFormed wellFormed _

private theorem transitionsAt_wellFormed (wellFormed : FieldsWellFormed fields) (key : String)
    (path : Path) : ∀ transition ∈ (transitionsAt fields key path).value, transition.WellFormed :=
  List.forall_mem_map.mpr fun object member =>
    transition_wellFormed (objectsAt_wellFormed wellFormed key path object member)

theorem lifecycleRule_wellFormed (path : Path) (wellFormed : FieldsWellFormed fields) :
    (lifecycleRule path fields).value.WellFormed where
  id := fieldOr_wellFormed wellFormed _ (Json.wellFormed_str _)
  keyPrefix := by
    have given := field_wellFormed wellFormed "prefix"
    change (if _ then _ else _ : Json).WellFormed
    split
    · exact given
    · exact Json.wellFormed_str _
  transitions := transitionsAt_wellFormed wellFormed _ _
  expirationDays := field_wellFormed (fieldsAt_wellFormed wellFormed _ _) _
  noncurrentTransitions := transitionsAt_wellFormed wellFormed _ _
  noncurrentExpirationDays := field_wellFormed (fieldsAt_wellFormed wellFormed _ _) _
  abortUploadDays := field_wellFormed (fieldsAt_wellFormed wellFormed _ _) _

theorem principalSet_wellFormed (wellFormed : FieldsWellFormed fields) :
    (principalSet fields).WellFormed where
  kind := fieldOr_wellFormed wellFormed _ (Json.wellFormed_str _)
  identifiers := asList_wellFormed (field_wellFormed wellFormed _)

theorem condition_wellFormed (wellFormed : FieldsWellFormed fields) :
    (condition fields).WellFormed where
  test := fieldOr_wellFormed wellFormed _ (Json.wellFormed_str _)
  key := fieldOr_wellFormed wellFormed _ (Json.wellFormed_str _)
  values := List.forall_mem_map.mpr fun _ _ => Json.wellFormed_str _

theorem statement_wellFormed (path : Path) (wellFormed : FieldsWellFormed fields) :
    (statement path fields).value.WellFormed where
  sid := field_wellFormed wellFormed _
  effect := fieldOr_wellFormed wellFormed _ (Json.wellFormed_str _)
  principals := List.forall_mem_map.mpr fun object member =>
    principalSet_wellFormed (objectsAt_wellFormed wellFormed _ _ object member)
  actions := asList_wellFormed (field_wellFormed wellFormed _)
  resources := asList_wellFormed (field_wellFormed wellFormed _)
  conditions := List.forall_mem_map.mpr fun object member =>
    condition_wellFormed (objectsAt_wellFormed wellFormed _ _ object member)

theorem corsRule_wellFormed (wellFormed : FieldsWellFormed fields) :
    (corsRule fields).WellFormed where
  allowedOrigins := asList_wellFormed (field_wellFormed wellFormed _)
  allowedMethods := asList_wellFormed (field_wellFormed wellFormed _)
  allowedHeaders := asList_wellFormed (field_wellFormed wellFormed _)
  exposedHeaders := asList_wellFormed (field_wellFormed wellFormed _)
  maxAgeSeconds := field_wellFormed wellFormed _

theorem objectLock_wellFormed (wellFormed : FieldsWellFormed fields) :
    ∀ lock ∈ objectLock fields, lock.WellFormed := by
  intro lock isLock
  rw [objectLock] at isLock
  split at isLock
  · cases isLock
    exact ⟨field_wellFormed wellFormed _, field_wellFormed wellFormed _⟩
  · contradiction

theorem shapedConfiguration_wellFormed (wellFormed : FieldsWellFormed fields) :
    (shapedConfiguration fields).value.WellFormed where
  encryptionKey := field_wellFormed (fieldsAt_wellFormed wellFormed _ _) _
  loggingBucket := field_wellFormed (fieldsAt_wellFormed wellFormed _ _) _
  loggingPrefix := field_wellFormed (fieldsAt_wellFormed wellFormed _ _) _
  lock := objectLock_wellFormed (fieldsAt_wellFormed wellFormed _ _)
  trustedPrincipals :=
    asList_wellFormed (field_wellFormed (fieldsAt_wellFormed wellFormed _ _) _)
  trustedActions := by
    have trusted : FieldsWellFormed (sectionAt fields "trustedPrincipals").value :=
      fieldsAt_wellFormed wellFormed _ _
    have ofActions := asList_wellFormed (field_wellFormed trusted "actions")
    intro actions areActions
    dsimp only [shapedConfiguration, bind, pure, Shaped.sound] at areActions
    split at areActions
    · contradiction
    · cases areActions
      exact ofActions
  lifecycleRules := List.forall_mem_map.mpr fun object member =>
    lifecycleRule_wellFormed object.1
      (objectsAt_wellFormed (fieldsAt_wellFormed wellFormed _ _) _ _ object member)
  statements := List.forall_mem_map.mpr fun object member =>
    statement_wellFormed object.1
      (objectsAt_wellFormed (fieldsAt_wellFormed wellFormed _ _) _ _ object member)
  corsRules := List.forall_mem_map.mpr fun object member =>
    corsRule_wellFormed (objectsAt_wellFormed (fieldsAt_wellFormed wellFormed _ _) _ _ object member)

/-- A well-formed specification is read into a well-formed configuration. -/
theorem configuration_wellFormed (wellFormed : FieldsWellFormed fields)
    {configuration : Configuration}
    (shaped : Specification.configuration fields = .ok configuration) :
    configuration.WellFormed := by
  rw [← (configuration_eq_ok_iff.mp shaped).2]
  exact shapedConfiguration_wellFormed wellFormed

end Specification

/-! ## Compiling -/

namespace Policy

private theorem allWellFormed_texts (texts : List String) :
    Json.AllWellFormed (texts.map .str) :=
  List.forall_mem_map.mpr fun _ _ => Json.wellFormed_str _

private theorem denial_wellFormed (sid action : String) (resources : List String)
    (test key : String) {value : Json} (wellFormed : value.WellFormed) :
    (denial sid action resources
      { test := .str test, key := .str key, values := [value] }).WellFormed where
  sid := Json.wellFormed_str _
  effect := Json.wellFormed_str _
  principals := List.forall_mem_singleton.mpr
    ⟨Json.wellFormed_str _, List.forall_mem_singleton.mpr (Json.wellFormed_str _)⟩
  actions := List.forall_mem_singleton.mpr (Json.wellFormed_str _)
  resources := allWellFormed_texts resources
  conditions := List.forall_mem_singleton.mpr
    ⟨Json.wellFormed_str _, Json.wellFormed_str _, List.forall_mem_singleton.mpr wellFormed⟩

private theorem allowTrusted_wellFormed (arn : BucketArn) {principals : List Json}
    {actions : Option (List Json)} (ofPrincipals : Json.AllWellFormed principals)
    (ofActions : ∀ given ∈ actions, Json.AllWellFormed given) :
    (allowTrusted arn principals actions).WellFormed where
  sid := Json.wellFormed_str _
  effect := Json.wellFormed_str _
  principals := List.forall_mem_singleton.mpr ⟨Json.wellFormed_str _, ofPrincipals⟩
  actions := by
    simp only [allowTrusted]
    split
    · exact allWellFormed_texts _
    · exact allWellFormed_texts _
    · exact ofActions _ rfl
  resources := List.forall_mem_cons.mpr
    ⟨Json.wellFormed_str _, List.forall_mem_singleton.mpr (Json.wellFormed_str _)⟩
  conditions := fun _ member => nomatch member

private theorem named_wellFormed_iff (index : Nat) (statement : Statement) :
    (named index statement).WellFormed ↔ statement.WellFormed := by
  rw [named]
  split
  · rename_i unnamed
    have sid : statement.sid.WellFormed := unnamed ▸ .leaf trivial
    exact ⟨fun wellFormed => { wellFormed with sid },
      fun wellFormed => { wellFormed with sid := Json.wellFormed_str _ }⟩
  · exact Iff.rfl

theorem statements_wellFormed (arn : BucketArn) {configuration : Configuration}
    (wellFormed : configuration.WellFormed) :
    ∀ statement ∈ (statements arn configuration).map Prod.snd, statement.WellFormed := by
  refine (forall_statements_iff named_wellFormed_iff ?_ ?_ ?_ ?_).mpr wellFormed.statements
  · exact denial_wellFormed _ _ _ _ _ (Json.wellFormed_str _)
  · exact allowTrusted_wellFormed arn wellFormed.trustedPrincipals wellFormed.trustedActions
  · exact denial_wellFormed _ _ _ _ _ (Json.wellFormed_str _)
  · exact denial_wellFormed _ _ _ _ _ wellFormed.encryptionKey

end Policy

/-- A well-formed configuration is compiled to a well-formed artifact. -/
theorem Configuration.artifact?_wellFormed {configuration : Configuration} {artifact : Artifact}
    (wellFormed : configuration.WellFormed) (isArtifact : configuration.artifact? = some artifact) :
    artifact.WellFormed := by
  rcases Option.map_eq_some_iff.mp isArtifact with ⟨statements, policy, rfl⟩
  rcases Option.map_eq_some_iff.mp policy with ⟨arn, -, rfl⟩
  exact
    { encryptionKey := wellFormed.encryptionKey
      statements := Policy.statements_wellFormed arn wellFormed
      lifecycleRules := wellFormed.lifecycleRules
      lock := by
        intro lock isLock
        change lock ∈ (if _ then _ else none : Option ObjectLock) at isLock
        split at isLock
        · exact wellFormed.lock lock isLock
        · contradiction
      loggingBucket := wellFormed.loggingBucket
      loggingPrefix := wellFormed.loggingPrefix
      corsRules := wellFormed.corsRules }

end BucketGuard
