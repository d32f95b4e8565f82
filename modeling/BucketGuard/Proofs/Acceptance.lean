import BucketGuard.Proofs.Compilation
import BucketGuard.Proofs.KeyArn
import BucketGuard.Proofs.Text.Parts

namespace BucketGuard

/-! What an accepted configuration is known to be. It has no errors in any section, so its name and
its encryption key are text, and actions of trusted principals are there if they are given. -/

theorem Path.flag_eq_nil_iff {path : Path} {flawed : Bool} {problem : Problem} :
    path.flag flawed problem = [] ↔ flawed = false := by
  cases flawed with
  | false => simp [Path.flag]
  | true => simp [Path.flag]

theorem Json.str?_eq_some_iff {value : Json} {text : String} :
    value.str? = some text ↔ value = .str text := by
  unfold Json.str?
  split
  · simp
  next other => simpa using other text

theorem BucketName.isNameCharacter_of_isName {name : List Char} (isName : BucketName.isName name) :
    ∀ character ∈ name, Text.isNameCharacter character := by
  match name with
  | [] => exact nofun
  | [_] => contradiction
  | first :: second :: rest =>
      simp only [BucketName.isName, Bool.and_eq_true, List.all_eq_true] at isName
      exact List.forall_mem_cons.mpr ⟨Bool.or_eq_true_iff.mpr (.inl isName.1.1), isName.1.2⟩

namespace Configuration

theorem errors_eq_nil_iff {strict : Bool} {configuration : Configuration} :
    configuration.errors strict = [] ↔
      configuration.nameErrors = [] ∧ configuration.environmentErrors = [] ∧
        configuration.encryptionKeyErrors = [] ∧ configuration.lockErrors strict = [] ∧
        configuration.lifecycleErrors = [] ∧ configuration.statementErrors = [] ∧
        configuration.trustedErrors = [] ∧ configuration.loggingErrors = [] ∧
        configuration.corsErrors = [] := by
  simp only [errors, List.append_eq_nil_iff, and_assoc]

theorem exists_name {configuration : Configuration} (accepted : configuration.nameErrors = []) :
    ∃ name, configuration.name = .str name := by
  unfold nameErrors at accepted
  split at accepted
  · exact ⟨_, by assumption⟩
  · contradiction

theorem environment_of_accepted {configuration : Configuration}
    (accepted : configuration.environmentErrors = []) :
    ∃ environment ∈ environments, configuration.environment = .str environment := by
  simp only [environmentErrors, Path.flag_eq_nil_iff, decide_eq_false_iff_not,
    Decidable.not_not, List.mem_map] at accepted
  rcases accepted with ⟨environment, member, equal⟩
  exact ⟨environment, member, equal.symm⟩

/-- An accepted name has name characters alone, but for a line break. -/
theorem name_of_accepted {configuration : Configuration} {name : String}
    (accepted : configuration.nameErrors = []) (isName : configuration.name = .str name) :
    ∀ character ∈ name.toList, Text.isNameCharacter character ∨ character = '\n' := by
  intro character member
  have hasForm : BucketName.hasForm name := by
    cases form : BucketName.hasForm name with
    | true => rfl
    | false => simp [nameErrors, isName, form] at accepted
  exact (Text.mem_withoutFinalBreak_or member).imp_left
    (BucketName.isNameCharacter_of_isName hasForm character)

theorem exists_encryptionKey {configuration : Configuration}
    (accepted : configuration.encryptionKeyErrors = []) :
    ∃ key arn, configuration.encryptionKey = .str key ∧ KeyArn.parse? key = some arn := by
  unfold encryptionKeyErrors at accepted
  split at accepted
  · contradiction
  · rw [Path.flag_eq_nil_iff, Option.isNone_eq_false_iff] at accepted
    rcases Option.isSome_iff_exists.mp accepted with ⟨arn, parsed⟩
    rcases Option.bind_eq_some_iff.mp parsed with ⟨key, isKey, parsed⟩
    exact ⟨key, arn, Json.str?_eq_some_iff.mp isKey, parsed⟩

theorem trustedActions_ne_nil {configuration : Configuration}
    (accepted : configuration.trustedErrors = []) : configuration.trustedActions ≠ some [] := by
  unfold trustedErrors at accepted
  simp only [List.append_eq_nil_iff, Path.flag_eq_nil_iff, decide_eq_false_iff_not] at accepted
  exact accepted.1.2

/-- The policy of an accepted configuration, for the bucket and the key that it names. -/
theorem policy?_of_accepted {configuration : Configuration} {name key : String} {arn : KeyArn}
    (isName : configuration.name = .str name) (isKey : configuration.encryptionKey = .str key)
    (parsed : KeyArn.parse? key = some arn) :
    configuration.policy? =
      some (Policy.statements (BucketArn.ofName (String.ofList arn.partition) name)
        configuration) := by
  rw [policy?, arn?, partition?, isKey, isName]
  simp only [parsed]
  rfl

/-- An accepted configuration has an artifact. -/
theorem exists_artifact {strict : Bool} {configuration : Configuration}
    (accepted : configuration.errors strict = []) :
    ∃ arn, configuration.artifact? = some
      (configuration.artifact ((Policy.statements arn configuration).map Prod.snd)) := by
  rcases errors_eq_nil_iff.mp accepted with ⟨nameErrors, -, keyErrors, -⟩
  rcases exists_name nameErrors with ⟨name, isName⟩
  rcases exists_encryptionKey keyErrors with ⟨key, arn, isKey, parsed⟩
  exact ⟨_, congrArg _ (policy?_of_accepted isName isKey parsed)⟩

end Configuration

end BucketGuard
