import BucketGuard.Proofs.CompilationTrail
import BucketGuard.Proofs.Sections

namespace BucketGuard

/-! What compiling counts and tells. A success is counted with each of its statements under its kind,
a rejection with each of its errors under the field at which the place of the error begins, and
both are timed once. -/

/-! ## Fields at which places begin -/

namespace Path

/-- The text names the field or goes on from it with a step. -/
def beginsAt (field text : String) : Bool :=
  text = field || (field ++ ".").toList.isPrefixOf text.toList ||
    (field ++ "[").toList.isPrefixOf text.toList

private theorem beginsAt_iff_exists {field text : String} :
    beginsAt field text = true ↔
      ∃ rest, text.toList = field.toList ++ rest ∧ StartsWith isStepMark rest := by
  simp only [beginsAt, Bool.or_eq_true, decide_eq_true_eq, List.isPrefixOf_iff_prefix,
    String.toList_append, or_assoc]
  constructor
  · rintro (rfl | ⟨rest, equal⟩ | ⟨rest, equal⟩)
    · exact ⟨[], (List.append_nil _).symm, .inl rfl⟩
    · exact ⟨_, equal.symm.trans (List.append_assoc ..), .inr ⟨'.', rest, rfl, rfl⟩⟩
    · exact ⟨_, equal.symm.trans (List.append_assoc ..), .inr ⟨'[', rest, rfl, rfl⟩⟩
  · rintro ⟨rest, equal, rfl | ⟨mark, others, rfl, isMark⟩⟩
    · rw [List.append_nil, String.toList_inj] at equal
      exact .inl equal
    · simp only [isStepMark, Bool.or_eq_true, decide_eq_true_eq] at isMark
      rcases isMark with rfl | rfl
      · exact .inr (.inl ⟨others, by rw [equal, List.append_assoc]; rfl⟩)
      · exact .inr (.inr ⟨others, by rw [equal, List.append_assoc]; rfl⟩)

theorem beginsAt_text_iff {path : Path} (plainRoot : IsPlainName path.root) {field : String}
    (plainField : IsPlainName field) : beginsAt field path.text = true ↔ path.root = field := by
  rw [beginsAt_iff_exists]
  constructor
  · rintro ⟨rest, equal, starts⟩
    rw [text_toList] at equal
    have parts := append_inj_of_startsWith _ plainRoot plainField
      (Step.startsWith_texts path.steps) starts equal
    exact String.toList_inj.mp parts.1
  · rintro rfl
    exact ⟨_, path.text_toList, Step.startsWith_texts path.steps⟩

/-- A character of the label of a field. -/
def isLabelCharacter (character : Char) : Bool := character.isLower || character = '_'

theorem rootLabel_text {path : Path} (nonempty : path.root ≠ "")
    (isLabel : ∀ character ∈ path.root.toList, isLabelCharacter character = true) :
    rootLabel path.text = path.root := by
  have starts : StartsWith (!isLabelCharacter ·) (path.steps.flatMap (·.text.toList)) := by
    rcases Step.startsWith_texts path.steps with isEmpty | ⟨mark, others, equal, isMark⟩
    · exact .inl isEmpty
    · refine .inr ⟨mark, others, equal, ?_⟩
      simp only [isStepMark, Bool.or_eq_true, decide_eq_true_eq] at isMark
      rcases isMark with rfl | rfl <;> rfl
  have label : path.text.toList.takeWhile isLabelCharacter = path.root.toList := by
    have cut := takeWhile_append_of_startsWith
      (fun character member => by rw [isLabel character member]; rfl) starts
    simpa only [Bool.not_not, path.text_toList] using cut
  rw [rootLabel, show path.text.toList.takeWhile (fun character => character.isLower ||
    character = '_') = path.root.toList from label]
  split
  next isEmpty => exact absurd (String.toList_eq_nil_iff.mp isEmpty) nonempty
  next => exact String.ofList_toList

end Path

namespace Configuration

/-- The fields of a configuration, under the names that places give them. -/
def fieldNames : List String :=
  ["name", "environment", "kms_key_id", "logging_target_bucket", "logging_target_prefix",
    "object_lock_enabled", "object_lock", "trusted_principals", "trusted_principal_actions",
    "lifecycle_rules", "custom_statements", "cors_rules", "tags"]

private theorem label_of_mem_fieldNames : ∀ field ∈ fieldNames,
    field ≠ "" ∧ (field.toList.all Path.isLabelCharacter) = true ∧ IsPlainName field := by
  decide

/-- Every error stands at a field of the configuration or below it. -/
theorem root_mem_fieldNames {strict : Bool} {configuration : Configuration} {error : FieldError}
    (member : error ∈ configuration.errors strict) : error.path.root ∈ fieldNames := by
  rcases exists_root_of_mem_errors member with lifecycle | ⟨root, isRoot, steps, -, equal⟩
  · rcases LifecycleRule.isAbove_of_mem_listErrors lifecycle with ⟨steps, -, equal⟩
    rw [equal]
    exact (by decide : "lifecycle_rules" ∈ fieldNames)
  · rw [equal]
    have areFields : ∀ root ∈ otherRoots, root ∈ fieldNames := by decide
    exact areFields root isRoot

/-! ## Counts -/

/-- How often a success counts each count. -/
def countsOfSuccess (configuration : Configuration) : Count → Nat
  | .compiled success => if success then 1 else 0
  | .timed => 1
  | .flawed _ => 0
  | .emitted .trustedPrincipals => if configuration.trustedPrincipals = [] then 0 else 1
  | .emitted .custom => configuration.statements.length
  | .emitted _ => 1
  | .applied .. => 0

/-- How often a rejection counts each count. -/
def countsOfRejection (rejection : Rejection) : Count → Nat
  | .compiled success => if success then 0 else 1
  | .timed => 1
  | .flawed field =>
      if field ∈ fieldNames then
        (rejection.errors.filter fun error => Path.beginsAt field error.field).length
      else 0
  | .emitted _ => 0
  | .applied .. => 0

private theorem length_customFrom (index : Nat) (statements : List Statement) :
    (Policy.customFrom index statements).length = statements.length := by
  induction statements generalizing index with
  | nil => rfl
  | cons statement rest induction =>
      rw [Policy.customFrom, List.length_cons, induction, List.length_cons]

/-- The kinds of the statements of a policy. -/
private theorem map_fst_statements (arn : BucketArn) (configuration : Configuration) :
    (Policy.statements arn configuration).map Prod.fst =
      [.insecureTransport] ++
        (if configuration.trustedPrincipals = [] then [] else [.trustedPrincipals]) ++
        [.unencryptedUploads, .incorrectKey] ++
        List.replicate configuration.statements.length .custom := by
  have custom : ((Policy.customFrom 0 configuration.statements).map
      fun statement => (StatementKind.custom, statement)).map Prod.fst =
        List.replicate configuration.statements.length .custom := by
    rw [List.map_map, ← length_customFrom 0 configuration.statements]
    exact List.map_const' ..
  rw [Policy.statements, List.map_append, List.map_append, List.map_append, custom]
  cases configuration.trustedPrincipals <;> rfl

private theorem map_emitted (statements : List (StatementKind × Statement)) :
    statements.map (fun statement => Count.emitted statement.1) =
      (statements.map Prod.fst).map Count.emitted := List.map_map.symm

private theorem count_success (arn : BucketArn) (configuration : Configuration) (count : Count) :
    ((Policy.statements arn configuration).map (fun statement => Count.emitted statement.1) ++
      [Count.timed, Count.compiled true]).count count = configuration.countsOfSuccess count := by
  rw [map_emitted, map_fst_statements]
  cases count with
  | emitted kind =>
      cases kind <;> by_cases none : configuration.trustedPrincipals = [] <;>
        simp [none, countsOfSuccess, List.count_replicate]
  | compiled success =>
      cases success <;> by_cases none : configuration.trustedPrincipals = [] <;>
        simp [none, countsOfSuccess, List.count_replicate]
  | _ =>
      by_cases none : configuration.trustedPrincipals = [] <;>
        simp [none, countsOfSuccess, List.count_replicate]

/-- Errors are counted under the field at which their places begin. -/
private theorem count_flawed {errors : List FieldError}
    (atFields : ∀ error ∈ errors, error.path.root ∈ fieldNames) (field : String) :
    (errors.map fun error => Count.flawed (Path.rootLabel error.field)).count (.flawed field) =
      if field ∈ fieldNames then (errors.filter (Path.beginsAt field ·.field)).length else 0 := by
  have label : ∀ error ∈ errors, Path.rootLabel error.field = error.path.root := by
    intro error member
    rcases label_of_mem_fieldNames _ (atFields error member) with ⟨nonempty, isLabel, -⟩
    exact Path.rootLabel_text nonempty (List.all_eq_true.mp isLabel)
  rw [List.count_eq_countP, List.countP_map]
  split
  next isField =>
    rw [← List.countP_eq_length_filter]
    refine List.countP_congr fun error member => ?_
    have ofRoot := (label_of_mem_fieldNames _ (atFields error member)).2.2
    have ofField := (label_of_mem_fieldNames field isField).2.2
    rw [FieldError.field, Path.beginsAt_text_iff ofRoot ofField]
    simp [label error member]
  next noField =>
    rw [List.countP_eq_zero]
    intro error member same
    refine noField ?_
    have equal : error.path.root = field := by simpa [label error member] using same
    exact equal ▸ atFields error member

private theorem count_rejection {rejection : Rejection}
    (atFields : ∀ error ∈ rejection.errors, error.path.root ∈ fieldNames) (count : Count) :
    (rejectionCounts rejection).count count = countsOfRejection rejection count := by
  have noFlaw (other : Count) (different : ∀ field, other ≠ .flawed field) :
      (rejection.errors.map fun error => Count.flawed (Path.rootLabel error.field)).count other =
        0 := by
    rw [List.count_eq_zero]
    intro member
    rcases List.mem_map.mp member with ⟨error, -, equal⟩
    exact different _ equal.symm
  rw [rejectionCounts, List.cons_append, List.count_cons, List.count_append, List.count_singleton]
  cases count with
  | flawed field => simp [count_flawed atFields field, countsOfRejection]
  | compiled success => cases success <;> simp [noFlaw, countsOfRejection]
  | _ => simp [noFlaw, countsOfRejection]

/-! ## Totals -/

private theorem countP_metric_emitted (kinds : List StatementKind) :
    (kinds.map Count.emitted).countP (·.metric = "statements_emitted_total") = kinds.length := by
  rw [List.countP_map]
  exact List.countP_eq_length.mpr fun _ _ => rfl

private theorem countP_metric_rejectionCounts (rejection : Rejection) :
    (rejectionCounts rejection).countP (·.metric = "validation_errors_total") =
      rejection.errors.length := by
  have ofErrors : (rejection.errors.map fun error =>
      Count.flawed (Path.rootLabel error.field)).countP
        (·.metric = "validation_errors_total") = rejection.errors.length := by
    rw [List.countP_map]
    exact List.countP_eq_length.mpr fun _ _ => rfl
  rw [rejectionCounts, List.cons_append, List.countP_cons, List.countP_append, ofErrors]
  rfl

/-! ## Whole runs -/

theorem counts_of_compile {strict traced : Bool} {configuration : Configuration}
    {artifact : Artifact} {fingerprint : String}
    (compiled : (configuration.compile strict traced).result = .ok (artifact, fingerprint)) :
    (∀ count, (configuration.compile strict traced).trail.counts.count count =
        configuration.countsOfSuccess count) ∧
      (configuration.compile strict traced).trail.counts.countP
        (·.metric = "statements_emitted_total") = artifact.statements.length := by
  rcases compile_counts_of_ok compiled with ⟨statements, isPolicy, rfl, counts⟩
  rcases Option.map_eq_some_iff.mp isPolicy with ⟨arn, -, rfl⟩
  rw [counts]
  refine ⟨count_success arn configuration, ?_⟩
  rw [List.countP_append, map_emitted, countP_metric_emitted, List.length_map]
  exact (List.length_map _).symm

theorem lines_of_compile {strict traced : Bool} {configuration : Configuration}
    {artifact : Artifact} {fingerprint : String}
    (compiled : (configuration.compile strict traced).result = .ok (artifact, fingerprint)) :
    (configuration.compile strict traced).trail.lines =
      (configuration.validate strict).trail.lines ++
        [configuration.compiledLine artifact fingerprint] := by
  rw [compile_lines, compiled, successLines]

/-- What validation tells is told of ignored lock settings, once at the most. -/
theorem validate_lines_cases (strict : Bool) (configuration : Configuration) :
    (configuration.validate strict).trail.lines = [] ∨
      ∃ line, (configuration.validate strict).trail.lines = [line] ∧ line.severity = .warning ∧
        line.Holds "event" (.str "warning") ∧ line.Holds "reason" (.str "ObjectLockIgnored") := by
  rw [validate_lines]
  split
  · exact .inr ⟨_, rfl, rfl, configuration.ignoredLockLine_holds⟩
  · exact .inl rfl

/-- A configuration without a name and a key. -/
private def unnamed : Configuration :=
  { name := .str "", environment := .str "prod", encryptionKey := .null, loggingBucket := .null
    loggingPrefix := .null, lockEnabled := .bool false, lock := none, trustedPrincipals := []
    trustedActions := none, lifecycleRules := [], statements := [], corsRules := [], tags := [] }

/-- A configuration with nothing but a name and a key. -/
private def plain : Configuration :=
  { unnamed with
    name := .str "plain"
    encryptionKey := .str
      "arn:aws:kms:us-east-1:123456789012:key/12345678-1234-1234-1234-123456789012" }

end Configuration

end BucketGuard
