import BucketGuard.Proofs.SidUniqueness

namespace BucketGuard

/-! Where errors stand. Every section of a configuration reports under roots of its own, so an error
belongs to the section that its place tells, and the text of the place names no other place. -/

/-! ## Lists of rules -/

namespace Transition

theorem isAbove_of_mem_errors {path : Path} {previous : Option Int} {transition : Transition}
    {error : FieldError} (member : error ∈ transition.errors path previous) :
    path.IsAbove error := by
  unfold errors at member
  split at member
  · have own := congrArg FieldError.path (List.mem_singleton.mp member)
    exact (Path.isAbove_of_eq own).of_field (by decide)
  · rcases List.mem_append.mp member with ofClass | ofOrder
    · exact (Path.isAbove_of_mem_flag ofClass).of_field (by decide)
    · unfold orderErrors at ofOrder
      split at ofOrder
      · exact (Path.isAbove_of_mem_flag ofOrder).of_field (by decide)
      · contradiction

theorem isAbove_of_mem_listErrors {path : Path} {previous : Option Int} {index : Nat}
    {transitions : List Transition} {error : FieldError}
    (member : error ∈ listErrors path previous index transitions) : path.IsAbove error := by
  induction transitions generalizing previous index with
  | nil => contradiction
  | cons transition rest induction =>
      rcases List.mem_append.mp member with own | later
      · exact (isAbove_of_mem_errors own).of_item
      · exact induction later

end Transition

namespace LifecycleRule

theorem path_of_mem_expirationErrors {path : Path} {expiration : Json} {last : Option Int}
    {error : FieldError} (member : error ∈ expirationErrors path expiration last) :
    error.path = path := by
  unfold expirationErrors at member
  split at member
  · contradiction
  · split at member
    · exact congrArg FieldError.path (List.mem_singleton.mp member)
    · exact Path.path_of_mem_flag member
    · contradiction

private theorem isAbove_of_mem_scheduleErrors {path : Path} {field expirationField : String}
    {transitions : List Transition} {expiration : Json} {error : FieldError}
    (isPlain : IsPlainName field) (expirationIsPlain : IsPlainName expirationField)
    (member : error ∈ scheduleErrors (path.field field) (path.field expirationField) transitions
      expiration) : path.IsAbove error := by
  rcases List.mem_append.mp member with ofList | ofExpiration
  · exact (Transition.isAbove_of_mem_listErrors ofList).of_field isPlain
  · exact (Path.isAbove_of_eq (path_of_mem_expirationErrors ofExpiration)).of_field
      expirationIsPlain

theorem isAbove_of_mem_errors {path : Path} {rule : LifecycleRule} {error : FieldError}
    (member : error ∈ rule.errors path) : path.IsAbove error := by
  simp only [errors, List.mem_append] at member
  rcases member with (((id | enabled) | current) | noncurrent) | abort
  · exact (Path.isAbove_of_mem_flag id).of_field (by decide)
  · exact (Path.isAbove_of_mem_flag enabled).of_field (by decide)
  · exact isAbove_of_mem_scheduleErrors (by decide) (by decide) current
  · exact isAbove_of_mem_scheduleErrors (by decide) (by decide) noncurrent
  · exact (Path.isAbove_of_mem_flag abort).of_field (by decide)

theorem isAbove_of_mem_duplicateErrors {path : Path} {seen : List String} {rule : LifecycleRule}
    {error : FieldError} (member : error ∈ rule.duplicateErrors path seen) :
    path.IsAbove error := by
  unfold duplicateErrors at member
  split at member
  · exact (Path.isAbove_of_mem_flag member).of_field (by decide)
  · contradiction

theorem isAbove_of_mem_listErrors {seen : List String} {index : Nat} {rules : List LifecycleRule}
    {error : FieldError} (member : error ∈ listErrors seen index rules) :
    (Path.ofRoot "lifecycle_rules").IsAbove error := by
  induction rules generalizing seen index with
  | nil => contradiction
  | cons rule rest induction =>
      simp only [listErrors, List.mem_append] at member
      rcases member with (own | duplicate) | later
      · exact (isAbove_of_mem_errors own).of_item
      · exact (isAbove_of_mem_duplicateErrors duplicate).of_item
      · exact induction later

end LifecycleRule

namespace CorsRule

theorem isAbove_of_mem_listErrors {index : Nat} {rules : List CorsRule} {error : FieldError}
    (member : error ∈ listErrors index rules) : (Path.ofRoot "cors_rules").IsAbove error := by
  induction rules generalizing index with
  | nil => contradiction
  | cons rule rest induction =>
      simp only [listErrors, errors, List.mem_append] at member
      rcases member with (((origins | methods) | unknown) | age) | later
      · exact ((Path.isAbove_of_mem_flag origins).of_field (by decide)).of_item
      · exact ((Path.isAbove_of_mem_flag methods).of_field (by decide)).of_item
      · exact ((Path.isAbove_of_mem_flag unknown).of_field (by decide)).of_item
      · exact ((Path.isAbove_of_mem_flag age).of_field (by decide)).of_item
      · exact induction later

end CorsRule

/-! ## Sections -/

namespace Configuration

/-- The roots under which the sections other than the lifecycle rules report. -/
def otherRoots : List String :=
  ["name", "environment", "kms_key_id", "object_lock", "object_lock_enabled", "custom_statements",
    "trusted_principals", "trusted_principal_actions", "logging_target_prefix", "cors_rules"]

theorem isAbove_of_mem_nameErrors {configuration : Configuration} {error : FieldError}
    (member : error ∈ configuration.nameErrors) : (Path.ofRoot "name").IsAbove error := by
  unfold nameErrors at member
  split at member
  · split at member
    · exact Path.isAbove_of_eq (congrArg FieldError.path (List.mem_singleton.mp member))
    · exact Path.isAbove_of_mem_flag member
  · exact Path.isAbove_of_eq (congrArg FieldError.path (List.mem_singleton.mp member))

theorem isAbove_of_mem_encryptionKeyErrors {configuration : Configuration} {error : FieldError}
    (member : error ∈ configuration.encryptionKeyErrors) :
    (Path.ofRoot "kms_key_id").IsAbove error := by
  unfold encryptionKeyErrors at member
  split at member
  · exact Path.isAbove_of_eq (congrArg FieldError.path (List.mem_singleton.mp member))
  · exact Path.isAbove_of_mem_flag member

theorem isAbove_of_mem_lockErrors {strict : Bool} {configuration : Configuration}
    {error : FieldError} (member : error ∈ configuration.lockErrors strict) :
    (Path.ofRoot "object_lock").IsAbove error ∨
      (Path.ofRoot "object_lock_enabled").IsAbove error := by
  unfold lockErrors at member
  split at member
  · exact .inl (Path.isAbove_of_mem_flag member)
  · split at member
    · exact .inl (Path.isAbove_of_eq (congrArg FieldError.path (List.mem_singleton.mp member)))
    · rcases List.mem_append.mp member with mode | days
      · exact .inl ((Path.isAbove_of_mem_flag mode).of_field (by decide))
      · exact .inl ((Path.isAbove_of_mem_flag days).of_field (by decide))
  · exact .inr (Path.isAbove_of_eq (congrArg FieldError.path (List.mem_singleton.mp member)))

theorem isAbove_of_mem_trustedErrors {configuration : Configuration} {error : FieldError}
    (member : error ∈ configuration.trustedErrors) :
    (Path.ofRoot "trusted_principals").IsAbove error ∨
      (Path.ofRoot "trusted_principal_actions").IsAbove error := by
  simp only [trustedErrors, List.mem_append] at member
  rcases member with (identifier | missing) | action
  · exact .inl (Statement.isAbove_of_mem_textErrors identifier)
  · exact .inr (Path.isAbove_of_mem_flag missing)
  · exact .inr (Statement.isAbove_of_mem_textErrors action)

/-- An error is one of the lifecycle rules, or it stands under a root of another section. -/
theorem exists_root_of_mem_errors {strict : Bool} {configuration : Configuration}
    {error : FieldError} (member : error ∈ configuration.errors strict) :
    error ∈ configuration.lifecycleErrors ∨
      ∃ root ∈ otherRoots, (Path.ofRoot root).IsAbove error := by
  simp only [errors, List.mem_append] at member
  rcases member with
    (((((((name | environment) | key) | lock) | lifecycle) | statement) | trusted) | logging) | cors
  · exact .inr ⟨"name", by decide, isAbove_of_mem_nameErrors name⟩
  · exact .inr ⟨"environment", by decide, Path.isAbove_of_mem_flag environment⟩
  · exact .inr ⟨"kms_key_id", by decide, isAbove_of_mem_encryptionKeyErrors key⟩
  · rcases isAbove_of_mem_lockErrors lock with ofLock | ofFlag
    · exact .inr ⟨"object_lock", by decide, ofLock⟩
    · exact .inr ⟨"object_lock_enabled", by decide, ofFlag⟩
  · exact .inl lifecycle
  · rcases Statement.isAbove_of_mem_listErrors statement with ⟨place, -, above⟩
    exact .inr ⟨"custom_statements", by decide, above.of_item⟩
  · rcases isAbove_of_mem_trustedErrors trusted with ofIdentifiers | ofActions
    · exact .inr ⟨"trusted_principals", by decide, ofIdentifiers⟩
    · exact .inr ⟨"trusted_principal_actions", by decide, ofActions⟩
  · exact .inr ⟨"logging_target_prefix", by decide, Path.isAbove_of_mem_flag logging⟩
  · exact .inr ⟨"cors_rules", by decide, CorsRule.isAbove_of_mem_listErrors cors⟩

/-- Every error stands at a place that can be read off its text. -/
theorem isPlain_of_mem_errors {strict : Bool} {configuration : Configuration} {error : FieldError}
    (member : error ∈ configuration.errors strict) : error.path.IsPlain := by
  rcases exists_root_of_mem_errors member with lifecycle | ⟨root, isRoot, above⟩
  · exact (LifecycleRule.isAbove_of_mem_listErrors lifecycle).isPlain (Path.isPlain_ofRoot (by decide))
  · have plain : ∀ root ∈ otherRoots, IsPlainName root := by decide
    exact above.isPlain (Path.isPlain_ofRoot (plain root isRoot))

/-- An error is named by a text if it stands at the place with that text. -/
theorem field_eq_text_iff {strict : Bool} {configuration : Configuration} {error : FieldError}
    (member : error ∈ configuration.errors strict) {path : Path} (plain : path.IsPlain) :
    error.field = path.text ↔ error.path = path :=
  ⟨Path.text_injective (isPlain_of_mem_errors member) plain, congrArg Path.text⟩

theorem mem_errors_of_mem_lifecycleErrors {configuration : Configuration} {error : FieldError}
    (member : error ∈ configuration.lifecycleErrors) (strict : Bool) :
    error ∈ configuration.errors strict := by
  simp only [errors, List.mem_append, member, true_or, or_true]

/-- The errors under the root of the lifecycle rules are those of the lifecycle rules. -/
theorem mem_errors_iff_of_root {strict : Bool} {configuration : Configuration} {error : FieldError}
    (isRoot : error.path.root = "lifecycle_rules") :
    error ∈ configuration.errors strict ↔ error ∈ configuration.lifecycleErrors := by
  refine ⟨fun member => ?_, (mem_errors_of_mem_lifecycleErrors · strict)⟩
  rcases exists_root_of_mem_errors member with lifecycle | ⟨root, isOther, steps, -, equal⟩
  · exact lifecycle
  · rw [equal] at isRoot
    have different : ∀ root ∈ otherRoots, root ≠ "lifecycle_rules" := by decide
    exact absurd isRoot (different root isOther)

/-! ## Sections by their roots -/

/-- The errors of the sections up to the lifecycle rules. -/
def frontErrors (strict : Bool) (configuration : Configuration) : List FieldError :=
  configuration.nameErrors ++ configuration.environmentErrors ++
    configuration.encryptionKeyErrors ++ configuration.lockErrors strict ++
    configuration.lifecycleErrors

/-- The errors of the sections after the trusted principals. -/
def restErrors (configuration : Configuration) : List FieldError :=
  configuration.loggingErrors ++ configuration.corsErrors

theorem errors_eq_append (strict : Bool) (configuration : Configuration) :
    configuration.errors strict =
      configuration.frontErrors strict ++ (configuration.statementErrors ++
        (configuration.trustedErrors ++ configuration.restErrors)) := by
  simp only [errors, frontErrors, restErrors, List.append_assoc]

def frontRoots : List String :=
  ["name", "environment", "kms_key_id", "object_lock", "object_lock_enabled", "lifecycle_rules"]

def trustedRoots : List String := ["trusted_principals", "trusted_principal_actions"]

def restRoots : List String := ["logging_target_prefix", "cors_rules"]

section Roots

variable {strict : Bool} {configuration : Configuration} {error : FieldError}

theorem root_of_mem_frontErrors (member : error ∈ configuration.frontErrors strict) :
    error.path.root ∈ frontRoots := by
  simp only [frontErrors, List.mem_append] at member
  rcases member with (((name | environment) | key) | lock) | lifecycle
  · rw [(isAbove_of_mem_nameErrors name).root]
    decide
  · rw [(Path.isAbove_of_mem_flag environment).root]
    decide
  · rw [(isAbove_of_mem_encryptionKeyErrors key).root]
    decide
  · rcases isAbove_of_mem_lockErrors lock with ofLock | ofFlag
    · rw [ofLock.root]
      decide
    · rw [ofFlag.root]
      decide
  · rw [(LifecycleRule.isAbove_of_mem_listErrors lifecycle).root]
    decide

theorem root_of_mem_statementErrors (member : error ∈ configuration.statementErrors) :
    error.path.root = "custom_statements" := by
  rcases Statement.isAbove_of_mem_listErrors member with ⟨place, -, above⟩
  exact above.root

theorem root_of_mem_trustedErrors (member : error ∈ configuration.trustedErrors) :
    error.path.root ∈ trustedRoots := by
  rcases isAbove_of_mem_trustedErrors member with ofIdentifiers | ofActions
  · rw [ofIdentifiers.root]
    decide
  · rw [ofActions.root]
    decide

theorem root_of_mem_restErrors (member : error ∈ configuration.restErrors) :
    error.path.root ∈ restRoots := by
  rcases List.mem_append.mp member with logging | cors
  · rw [(Path.isAbove_of_mem_flag logging).root]
    decide
  · rw [(CorsRule.isAbove_of_mem_listErrors cors).root]
    decide

private theorem filter_eq_nil_of_root {roots : List String} {errors : List FieldError}
    {place : Path} (inRoots : ∀ error ∈ errors, error.path.root ∈ roots)
    (elsewhere : place.root ∉ roots) : errors.filter (·.path = place) = [] :=
  Path.filter_eq_nil fun error member equal => elsewhere (equal ▸ inRoots error member)

/-- The errors at a place in the statements are those of the statements. -/
theorem filter_errors_of_statements (strict : Bool) {place : Path}
    (isRoot : place.root = "custom_statements") :
    (configuration.errors strict).filter (·.path = place) =
      configuration.statementErrors.filter (·.path = place) := by
  have front : (configuration.frontErrors strict).filter (·.path = place) = [] :=
    filter_eq_nil_of_root (fun _ => root_of_mem_frontErrors) (by rw [isRoot]; decide)
  have trusted : configuration.trustedErrors.filter (·.path = place) = [] :=
    filter_eq_nil_of_root (fun _ => root_of_mem_trustedErrors) (by rw [isRoot]; decide)
  have rest : configuration.restErrors.filter (·.path = place) = [] :=
    filter_eq_nil_of_root (fun _ => root_of_mem_restErrors) (by rw [isRoot]; decide)
  rw [errors_eq_append, List.filter_append, List.filter_append, List.filter_append, front, trusted,
    rest]
  exact List.append_nil _

/-- The errors at a place in the lists of trusted principals are those of the lists. -/
theorem filter_errors_of_trusted (strict : Bool) {place : Path}
    (isRoot : place.root ∈ trustedRoots) :
    (configuration.errors strict).filter (·.path = place) =
      configuration.trustedErrors.filter (·.path = place) := by
  have elsewhere : ∀ root ∈ trustedRoots,
      root ∉ frontRoots ∧ root ≠ "custom_statements" ∧ root ∉ restRoots := by decide
  rcases elsewhere place.root isRoot with ⟨notFront, notStatements, notRest⟩
  have front : (configuration.frontErrors strict).filter (·.path = place) = [] :=
    filter_eq_nil_of_root (fun _ => root_of_mem_frontErrors) notFront
  have statements : configuration.statementErrors.filter (·.path = place) = [] :=
    Path.filter_eq_nil fun error member equal =>
      notStatements (equal ▸ root_of_mem_statementErrors member)
  have rest : configuration.restErrors.filter (·.path = place) = [] :=
    filter_eq_nil_of_root (fun _ => root_of_mem_restErrors) notRest
  rw [errors_eq_append, List.filter_append, List.filter_append, List.filter_append, front,
    statements, rest]
  exact List.append_nil _

end Roots

end Configuration

end BucketGuard
