import BucketGuard.Proofs.LifecycleOrder
import BucketGuard.Proofs.Sections

namespace BucketGuard

/-! The sections of custom statements, trusted principals, logging and cross-origin rules are judged
exactly. But for the names of statements nothing is reported in them if they are sound, and only
then. An element of one of their lists is reported if it is at fault itself, and once. -/

/-! ## Sound sections -/

namespace Json

/-- A text that is not empty. -/
def IsFilled (value : Json) : Prop := ∃ text, value = .str text ∧ text ≠ ""

/-- Texts that are not empty, one at least. -/
structure AreFilled (items : List Json) : Prop where
  nonempty : items ≠ []
  each : ∀ item ∈ items, item.IsFilled

end Json

/-- The set has a type, and a principal of it. -/
structure PrincipalSet.IsSound (set : PrincipalSet) : Prop where
  kind : set.kind.isGiven = true
  identifiers : set.identifiers ≠ []

/-- Nothing is wrong with the statement, its name apart. -/
structure Statement.IsSound (statement : Statement) : Prop where
  actions : Json.AreFilled statement.actions
  resources : Json.AreFilled statement.resources
  effect : statement.effect = .str "Allow" ∨ statement.effect = .str "Deny"
  principals : ∀ set ∈ statement.principals, set.IsSound

structure CorsRule.IsSound (rule : CorsRule) : Prop where
  origins : rule.allowedOrigins ≠ []
  methods : rule.allowedMethods ≠ []
  known : ∀ method ∈ rule.allowedMethods,
    ∃ name ∈ ["GET", "PUT", "POST", "DELETE", "HEAD"], method = .str name
  age : rule.maxAgeSeconds = .null ∨ ∃ seconds : Int, rule.maxAgeSeconds = .int seconds ∧ 0 ≤ seconds

/-- Custom statements, trusted principals, logging and cross-origin rules as they must be. -/
structure Configuration.HasSoundSections (configuration : Configuration) : Prop where
  statements : ∀ statement ∈ configuration.statements, statement.IsSound
  identifiers : ∀ identifier ∈ configuration.trustedPrincipals, identifier.IsFilled
  actions : ∀ actions, configuration.trustedActions = some actions → Json.AreFilled actions
  logging : configuration.loggingPrefix.isGiven = true → configuration.loggingBucket.isGiven = true
  cors : ∀ rule ∈ configuration.corsRules, rule.IsSound

/-! ## What is reported of sound sections -/

theorem Json.textErrors_eq_nil_iff {path : Path} {problem : Json → Problem} {index : Nat}
    {items : List Json} :
    textErrors path problem index items = [] ↔ ∀ item ∈ items, item.IsFilled := by
  rw [textErrors_eq_flagEach, Path.flagEach_eq_nil_iff]
  exact forall₂_congr fun item _ => isText_iff

theorem PrincipalSet.isComplete_iff {set : PrincipalSet} :
    set.isComplete = true ↔ set.IsSound := by
  rw [isComplete, Bool.and_eq_true, Bool.not_eq_true', List.isEmpty_eq_false_iff]
  exact ⟨fun ⟨kind, identifiers⟩ => ⟨kind, identifiers⟩,
    fun ⟨kind, identifiers⟩ => ⟨kind, identifiers⟩⟩

namespace Statement

theorem contentErrors_eq_nil_iff (path : Path) {statement : Statement} :
    statement.contentErrors path = [] ↔ statement.IsSound := by
  have known : statement.effect ∈ effects.map Tree.str ↔
      statement.effect = .str "Allow" ∨ statement.effect = .str "Deny" := by
    simp [effects]
  simp only [contentErrors, List.append_eq_nil_iff, Path.flag_eq_nil_iff, Json.textErrors_eq_nil_iff,
    PrincipalSet.listErrors_eq_flagEach, Path.flagEach_eq_nil_iff, List.isEmpty_eq_false_iff,
    decide_eq_false_iff_not, Decidable.not_not, known, PrincipalSet.isComplete_iff]
  constructor
  · rintro ⟨⟨⟨⟨⟨hasActions, actions⟩, hasResources⟩, resources⟩, effect⟩, principals⟩
    exact ⟨⟨hasActions, actions⟩, ⟨hasResources, resources⟩, effect, principals⟩
  · rintro ⟨⟨hasActions, actions⟩, ⟨hasResources, resources⟩, effect, principals⟩
    exact ⟨⟨⟨⟨⟨hasActions, actions⟩, hasResources⟩, resources⟩, effect⟩, principals⟩

/-- What is reported of a statement's contents does not stand at the name of any statement. -/
theorem content_elsewhere {index : Nat} {statement : Statement} {error : FieldError}
    (member : error ∈ statement.contentErrors (pathAt index)) (place : Nat) :
    error.path ≠ sidPath place := by
  intro equal
  have ofPlace : (pathAt place).IsAbove error :=
    (show (sidPath place).IsAbove error from Path.isAbove_of_eq equal).of_field (by decide)
  rcases isAbove_of_mem_contentErrors member with ⟨name, isContent, above⟩
  have ofIndex : (pathAt index).IsAbove error :=
    above.of_field (isPlainName_of_mem_contentFields isContent)
  have same : index = place := ofIndex.item_unique ofPlace
  subst same
  exact content_ne_sidPath member equal

/-- Of errors that stand elsewhere, all stand at names of statements if there are none. -/
theorem forall_named_iff_eq_nil {errors : List FieldError}
    (elsewhere : ∀ error ∈ errors, ∀ place, error.path ≠ sidPath place) :
    (∀ error ∈ errors, ∃ place, error.path = sidPath place) ↔ errors = [] := by
  rw [List.eq_nil_iff_forall_not_mem]
  constructor
  · intro named error member
    rcases named error member with ⟨place, equal⟩
    exact elsewhere error member place equal
  · intro none error member
    exact absurd member (none error)

theorem forall_listErrors_iff {seen : List String} {index : Nat} {statements : List Statement} :
    (∀ error ∈ listErrors seen index statements, ∃ place, error.path = sidPath place) ↔
      ∀ statement ∈ statements, statement.IsSound := by
  induction statements generalizing seen index with
  | nil => simp [listErrors]
  | cons statement rest induction =>
      have content : (∀ error ∈ statement.contentErrors (pathAt index),
          ∃ place, error.path = sidPath place) ↔ statement.IsSound :=
        (forall_named_iff_eq_nil fun _ => content_elsewhere).trans
          (contentErrors_eq_nil_iff (pathAt index))
      have named : ∀ error ∈ sidErrors (sidPath index) seen index statement.sid,
          ∃ place, error.path = sidPath place :=
        fun error member => ⟨index, path_of_mem_sidErrors member⟩
      rw [listErrors_cons, List.forall_mem_append, List.forall_mem_append, and_iff_left named,
        content, induction, List.forall_mem_cons]

end Statement

namespace CorsRule

theorem isMethod_iff {method : Json} :
    isMethod method = true ↔ ∃ name ∈ corsMethods, method = .str name := by
  simp [isMethod, eq_comm]

theorem isAge_iff {seconds : Json} :
    isAge seconds = true ↔
      seconds = .null ∨ ∃ count : Int, seconds = .int count ∧ 0 ≤ count := by
  rw [isAge, Bool.or_eq_true, decide_eq_true_eq, Option.isSome_iff_exists]
  simp only [Json.count?_eq_some_iff]

theorem errors_eq_nil_iff {path : Path} {rule : CorsRule} :
    rule.errors path = [] ↔ rule.IsSound := by
  simp only [errors, List.append_eq_nil_iff, Path.flag_eq_nil_iff, List.isEmpty_eq_false_iff,
    Bool.not_eq_false', List.isEmpty_iff, List.filter_eq_nil_iff, Bool.not_eq_true', isAge_iff,
    Bool.not_eq_false, isMethod_iff]
  constructor
  · rintro ⟨⟨⟨origins, methods⟩, known⟩, age⟩
    exact ⟨origins, methods, known, age⟩
  · rintro ⟨origins, methods, known, age⟩
    exact ⟨⟨⟨origins, methods⟩, known⟩, age⟩

theorem listErrors_eq_nil_iff {index : Nat} {rules : List CorsRule} :
    listErrors index rules = [] ↔ ∀ rule ∈ rules, rule.IsSound := by
  induction rules generalizing index with
  | nil => simp [listErrors]
  | cons rule rest induction =>
      rw [listErrors, List.append_eq_nil_iff, errors_eq_nil_iff, induction, List.forall_mem_cons]

end CorsRule

namespace Configuration

theorem trustedErrors_eq_nil_iff {configuration : Configuration} :
    configuration.trustedErrors = [] ↔
      (∀ identifier ∈ configuration.trustedPrincipals, identifier.IsFilled) ∧
        ∀ actions, configuration.trustedActions = some actions → Json.AreFilled actions := by
  simp only [trustedErrors, List.append_eq_nil_iff, Path.flag_eq_nil_iff, Json.textErrors_eq_nil_iff,
    decide_eq_false_iff_not, and_assoc]
  refine and_congr_right fun _ => ?_
  cases configuration.trustedActions with
  | none => simp
  | some actions =>
      simp only [Option.some.injEq, Option.getD_some, forall_eq']
      exact ⟨fun ⟨nonempty, each⟩ => ⟨nonempty, each⟩, fun ⟨nonempty, each⟩ => ⟨nonempty, each⟩⟩

theorem loggingErrors_eq_nil_iff {configuration : Configuration} :
    configuration.loggingErrors = [] ↔
      (configuration.loggingPrefix.isGiven = true → configuration.loggingBucket.isGiven = true) := by
  rw [loggingErrors, Path.flag_eq_nil_iff]
  cases configuration.loggingPrefix.isGiven <;> cases configuration.loggingBucket.isGiven <;> simp

/-- The errors of the sections after the lifecycle rules. -/
def sectionErrors (configuration : Configuration) : List FieldError :=
  configuration.statementErrors ++ configuration.trustedErrors ++ configuration.loggingErrors ++
    configuration.corsErrors

theorem sectionErrors_eq_append (configuration : Configuration) :
    configuration.sectionErrors =
      configuration.statementErrors ++ (configuration.trustedErrors ++ configuration.restErrors) := by
  simp only [sectionErrors, restErrors, List.append_assoc]

/-- The errors of the sections stand at names of statements alone if the sections are sound. -/
theorem forall_named_iff (configuration : Configuration) :
    (∀ error ∈ configuration.sectionErrors, ∃ place, error.path = Statement.sidPath place) ↔
      configuration.HasSoundSections := by
  have elsewhere {roots : List String} (apart : "custom_statements" ∉ roots)
      {error : FieldError} (inRoots : error.path.root ∈ roots) (place : Nat) :
      error.path ≠ Statement.sidPath place := fun equal => apart (by rwa [equal] at inRoots)
  have trusted : (∀ error ∈ configuration.trustedErrors,
      ∃ place, error.path = Statement.sidPath place) ↔ configuration.trustedErrors = [] :=
    Statement.forall_named_iff_eq_nil fun error member =>
      elsewhere (by decide) (root_of_mem_trustedErrors member)
  have rest : (∀ error ∈ configuration.restErrors,
      ∃ place, error.path = Statement.sidPath place) ↔ configuration.restErrors = [] :=
    Statement.forall_named_iff_eq_nil fun error member =>
      elsewhere (by decide) (root_of_mem_restErrors member)
  rw [sectionErrors_eq_append, List.forall_mem_append, List.forall_mem_append,
    statementErrors, Statement.forall_listErrors_iff, trusted, rest, trustedErrors_eq_nil_iff,
    restErrors, List.append_eq_nil_iff, loggingErrors_eq_nil_iff, corsErrors,
    CorsRule.listErrors_eq_nil_iff]
  constructor
  · rintro ⟨statements, ⟨identifiers, actions⟩, logging, cors⟩
    exact ⟨statements, identifiers, actions, logging, cors⟩
  · rintro ⟨statements, identifiers, actions, logging, cors⟩
    exact ⟨statements, ⟨identifiers, actions⟩, logging, cors⟩

end Configuration

end BucketGuard
