import BucketGuard.Proofs.SectionAcceptance

namespace BucketGuard

/-! Errors of single elements. An element of a list of a statement, or of the lists of trusted
principals, is reported if it is at fault itself, once, and whatever else is wrong. -/

/-! ## Elements of lists -/

/-- An element of a list that is judged item by item. -/
inductive Element where
  | action (statement index : Nat)
  | resource (statement index : Nat)
  | principal (statement index : Nat)
  | trusted (index : Nat)
  | trustedAction (index : Nat)

namespace Element

def text : Element → String
  | .action statement index => s!"custom_statements[{statement}].actions[{index}]"
  | .resource statement index => s!"custom_statements[{statement}].resources[{index}]"
  | .principal statement index => s!"custom_statements[{statement}].principals[{index}]"
  | .trusted index => s!"trusted_principals[{index}]"
  | .trustedAction index => s!"trusted_principal_actions[{index}]"

/-- The element is there, and something is wrong with it. -/
def IsFaulty (configuration : Configuration) : Element → Prop
  | .action index place => ∃ statement ∈ configuration.statements[index]?,
      ∃ action ∈ statement.actions[place]?, ¬action.IsFilled
  | .resource index place => ∃ statement ∈ configuration.statements[index]?,
      ∃ resource ∈ statement.resources[place]?, ¬resource.IsFilled
  | .principal index place => ∃ statement ∈ configuration.statements[index]?,
      ∃ set ∈ statement.principals[place]?, ¬set.IsSound
  | .trusted place => ∃ identifier ∈ configuration.trustedPrincipals[place]?, ¬identifier.IsFilled
  | .trustedAction place => ∃ actions ∈ configuration.trustedActions,
      ∃ action ∈ actions[place]?, ¬action.IsFilled

def path : Element → Path
  | .action statement index => ((Statement.pathAt statement).field "actions").item index
  | .resource statement index => ((Statement.pathAt statement).field "resources").item index
  | .principal statement index => ((Statement.pathAt statement).field "principals").item index
  | .trusted index => (Path.ofRoot "trusted_principals").item index
  | .trustedAction index => (Path.ofRoot "trusted_principal_actions").item index

theorem isPlain_path (element : Element) : element.path.IsPlain := by
  have ofStatement (name : String) (isPlain : IsPlainName name) (statement index : Nat) :
      (((Statement.pathAt statement).field name).item index).IsPlain :=
    (((Path.isPlain_ofRoot (by decide)).item statement).field isPlain).item index
  cases element with
  | action statement index => exact ofStatement "actions" (by decide) statement index
  | resource statement index => exact ofStatement "resources" (by decide) statement index
  | principal statement index => exact ofStatement "principals" (by decide) statement index
  | trusted index => exact (Path.isPlain_ofRoot (by decide)).item index
  | trustedAction index => exact (Path.isPlain_ofRoot (by decide)).item index

private theorem text_inStatement (name : String) (statement index : Nat) :
    (((Statement.pathAt statement).field name).item index).text =
      "custom_statements[" ++ toString statement ++ ("]." ++ name ++ "[") ++ toString index ++
        "]" := by
  rw [Statement.pathAt, Path.text_item, Path.text_field_item, ← String.toList_inj]
  simp

private theorem text_inRoot (root : String) (index : Nat) :
    ((Path.ofRoot root).item index).text = root ++ "[" ++ toString index ++ "]" := by
  rw [Path.text_item, Path.text_ofRoot, ← String.append_assoc, ← String.append_assoc]

theorem text_path (element : Element) : element.path.text = element.text := by
  cases element with
  | action statement index => exact text_inStatement "actions" statement index
  | resource statement index => exact text_inStatement "resources" statement index
  | principal statement index => exact text_inStatement "principals" statement index
  | trusted index => exact text_inRoot "trusted_principals" index
  | trustedAction index => exact text_inRoot "trusted_principal_actions" index

end Element

/-! ## What is reported of an element -/

section Items

open BucketGuard.Path

namespace Statement

variable (path : Path) (statement : Statement) (place : Nat)

theorem reportsOnce_action :
    ReportsOnce (∃ action ∈ statement.actions[place]?, ¬action.IsFilled)
      ((statement.contentErrors path).filter (·.path = (path.field "actions").item place)) := by
  simp (disch := decide) only [contentErrors, Json.textErrors_eq_flagEach,
    PrincipalSet.listErrors_eq_flagEach, List.filter_append, filter_item_flag, filter_field_flag,
    filter_field_flagEach, List.nil_append, List.append_nil]
  exact reportsOnce_flagEach _ _ (fun _ => Json.isText_iff) place statement.actions

theorem reportsOnce_resource :
    ReportsOnce (∃ resource ∈ statement.resources[place]?, ¬resource.IsFilled)
      ((statement.contentErrors path).filter (·.path = (path.field "resources").item place)) := by
  simp (disch := decide) only [contentErrors, Json.textErrors_eq_flagEach,
    PrincipalSet.listErrors_eq_flagEach, List.filter_append, filter_item_flag, filter_field_flag,
    filter_field_flagEach, List.nil_append, List.append_nil]
  exact reportsOnce_flagEach _ _ (fun _ => Json.isText_iff) place statement.resources

theorem reportsOnce_principal :
    ReportsOnce (∃ set ∈ statement.principals[place]?, ¬set.IsSound)
      ((statement.contentErrors path).filter (·.path = (path.field "principals").item place)) := by
  simp (disch := decide) only [contentErrors, Json.textErrors_eq_flagEach,
    PrincipalSet.listErrors_eq_flagEach, List.filter_append, filter_field_flag,
    filter_field_flagEach, List.nil_append, List.append_nil]
  exact reportsOnce_flagEach _ _ (fun _ => PrincipalSet.isComplete_iff) place statement.principals

/-- An element of a statement is reported as it is in the contents of the statement. -/
theorem reportsOnce_inStatement {atFault : Statement → Prop} {name : String} {index place : Nat}
    (isPlain : IsPlainName name)
    (ofContent : ∀ statement : Statement, ReportsOnce (atFault statement)
      ((statement.contentErrors (pathAt index)).filter
        (·.path = ((pathAt index).field name).item place)))
    (statements : List Statement) :
    ReportsOnce (∃ statement ∈ statements[index]?, atFault statement)
      ((listErrors [] 0 statements).filter
        (·.path = ((pathAt index).field name).item place)) := by
  have below (error : FieldError) (equal : error.path = ((pathAt index).field name).item place) :
      (pathAt (0 + index)).IsAbove error := by
    rw [Nat.zero_add]
    exact ((isAbove_of_eq equal).of_item).of_field isPlain
  rw [filter_listErrors [] 0 index statements below, Nat.zero_add]
  cases statements[index]? with
  | none => exact reportsOnce_nil (by simp)
  | some statement =>
      have named : (sidErrors (sidPath index) (namesBefore [] 0 (statements.take index)) index
          statement.sid).filter (·.path = ((pathAt index).field name).item place) = [] := by
        apply filter_eq_nil
        intro error member equal
        have lengths := congrArg (·.steps.length) ((path_of_mem_sidErrors member).symm.trans equal)
        simp [sidPath, pathAt, field, item] at lengths
      simp only [named, List.append_nil, Option.mem_def, Option.some.injEq, exists_eq_left']
      exact ofContent statement

end Statement

namespace Configuration

private theorem filter_eq_nil_of_isAbove {root : String} {errors : List FieldError} {place : Path}
    (above : ∀ error ∈ errors, (Path.ofRoot root).IsAbove error) (elsewhere : root ≠ place.root) :
    errors.filter (·.path = place) = [] :=
  filter_eq_nil fun error member equal =>
    elsewhere ((above error member).root.symm.trans (congrArg Path.root equal))

theorem reportsOnce_trusted (configuration : Configuration) (place : Nat) :
    ReportsOnce (∃ identifier ∈ configuration.trustedPrincipals[place]?, ¬identifier.IsFilled)
      (configuration.trustedErrors.filter
        (·.path = (Path.ofRoot "trusted_principals").item place)) := by
  have missing : ((Path.ofRoot "trusted_principal_actions").flag
      (configuration.trustedActions = some []) .trustedActionsMissing).filter
        (·.path = (Path.ofRoot "trusted_principals").item place) = [] :=
    filter_eq_nil_of_isAbove (fun _ => isAbove_of_mem_flag) (by simp [item, ofRoot])
  have actions : (Json.textErrors (.ofRoot "trusted_principal_actions") .actionForm 0
      (configuration.trustedActions.getD [])).filter
        (·.path = (Path.ofRoot "trusted_principals").item place) = [] :=
    filter_eq_nil_of_isAbove (fun _ => Statement.isAbove_of_mem_textErrors)
      (by simp [item, ofRoot])
  rw [trustedErrors, List.filter_append, List.filter_append, missing, actions, List.append_nil,
    List.append_nil, Json.textErrors_eq_flagEach]
  exact reportsOnce_flagEach _ _ (fun _ => Json.isText_iff) place _

theorem reportsOnce_trustedAction (configuration : Configuration) (place : Nat) :
    ReportsOnce (∃ actions ∈ configuration.trustedActions, ∃ action ∈ actions[place]?,
        ¬action.IsFilled)
      (configuration.trustedErrors.filter
        (·.path = (Path.ofRoot "trusted_principal_actions").item place)) := by
  have given : (∃ action ∈ (configuration.trustedActions.getD [])[place]?, ¬action.IsFilled) ↔
      ∃ actions ∈ configuration.trustedActions, ∃ action ∈ actions[place]?, ¬action.IsFilled := by
    cases configuration.trustedActions <;> simp
  have identifiers : (Json.textErrors (.ofRoot "trusted_principals")
      (fun _ => .trustedIdentifierForm) 0 configuration.trustedPrincipals).filter
        (·.path = (Path.ofRoot "trusted_principal_actions").item place) = [] :=
    filter_eq_nil_of_isAbove (fun _ => Statement.isAbove_of_mem_textErrors)
      (by simp [item, ofRoot])
  rw [trustedErrors, List.filter_append, List.filter_append, identifiers, filter_item_flag,
    List.nil_append, List.nil_append, Json.textErrors_eq_flagEach]
  exact (reportsOnce_flagEach _ _ (fun _ => Json.isText_iff) place _).iff given

end Configuration

theorem Element.reportsOnce (strict : Bool) (configuration : Configuration) (element : Element) :
    ReportsOnce (element.IsFaulty configuration)
      ((configuration.errors strict).filter (·.path = element.path)) := by
  cases element with
  | action index place =>
      rw [path, Configuration.filter_errors_of_statements strict rfl]
      exact Statement.reportsOnce_inStatement (by decide)
        (fun statement => statement.reportsOnce_action _ place) _
  | resource index place =>
      rw [path, Configuration.filter_errors_of_statements strict rfl]
      exact Statement.reportsOnce_inStatement (by decide)
        (fun statement => statement.reportsOnce_resource _ place) _
  | principal index place =>
      rw [path, Configuration.filter_errors_of_statements strict rfl]
      exact Statement.reportsOnce_inStatement (by decide)
        (fun statement => statement.reportsOnce_principal _ place) _
  | trusted place =>
      rw [path, Configuration.filter_errors_of_trusted strict (.head _)]
      exact configuration.reportsOnce_trusted place
  | trustedAction place =>
      rw [path, Configuration.filter_errors_of_trusted strict (.tail _ (.head _))]
      exact configuration.reportsOnce_trustedAction place

end Items

namespace Configuration

/-- But for the names of statements, nothing is reported of custom statements, trusted principals,
logging and cross-origin rules if they are sound, and only then. Whatever is wrong in a
configuration, a text that names an element of a list is that of an error if the element is there
and faulty, and of one error only. -/
theorem sections_judged (configuration : Configuration) :
    ((∀ error ∈ configuration.sectionErrors,
        ∃ index : Nat, error.field = s!"custom_statements[{index}].sid") ↔
      configuration.HasSoundSections) ∧
    ∀ (strict : Bool) (element : Element),
      ((∃ error ∈ configuration.errors strict, error.field = element.text) ↔
        element.IsFaulty configuration) ∧
      (configuration.errors strict).countP (·.field = element.text) ≤ 1 := by
  constructor
  · rw [← forall_named_iff]
    refine forall₂_congr fun error member => exists_congr fun index => ?_
    have isError : error ∈ configuration.errors false := by
      rw [sectionErrors_eq_append] at member
      rw [errors_eq_append]
      exact List.mem_append_right _ member
    have isPlain : (Statement.sidPath index).IsPlain :=
      ((Path.isPlain_ofRoot (by decide)).item index).field (by decide)
    rw [← sidPath_text]
    exact field_eq_text_iff isError isPlain
  · intro strict element
    rcases element.reportsOnce strict configuration with ⟨reported, once⟩
    have byText : (configuration.errors strict).filter (·.field = element.text) =
        (configuration.errors strict).filter (·.path = element.path) := by
      apply List.filter_congr
      intro error member
      rw [← element.text_path]
      simp only [field_eq_text_iff member element.isPlain_path]
    rw [← byText] at reported once
    constructor
    · rw [← reported]
      simp only [ne_eq, List.filter_eq_nil_iff, decide_eq_true_eq, not_forall, not_not, exists_prop]
    · rwa [List.countP_eq_length_filter]

end Configuration

end BucketGuard
