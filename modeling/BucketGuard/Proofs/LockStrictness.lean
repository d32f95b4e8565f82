import BucketGuard.Proofs.CompilationTrail
import BucketGuard.Proofs.LifecycleOrder

namespace BucketGuard

/-! Strict mode. Validation differs in it by one error alone, for lock settings that have no effect,
where it otherwise tells that they are ignored. So whatever compiles in strict mode compiles without
it, to the same artifact, and a lock in an artifact was asked for and is sound. -/

namespace ObjectLock

/-- A known mode, and an integer above zero for the days. -/
structure IsSound (lock : ObjectLock) : Prop where
  mode : lock.mode = .str "GOVERNANCE" ∨ lock.mode = .str "COMPLIANCE"
  retentionDays : ∃ days : Int, 0 < days ∧ lock.retentionDays = .int days

theorem isSound_of_errors_eq_nil {path : Path} {lock : ObjectLock}
    (noErrors : lock.errors path = []) : lock.IsSound := by
  simp only [errors, List.append_eq_nil_iff, Path.flag_eq_nil_iff, decide_eq_false_iff_not,
    Decidable.not_not, Option.isNone_eq_false_iff] at noErrors
  rcases noErrors with ⟨mode, days⟩
  rcases Option.isSome_iff_exists.mp days with ⟨days, isDays⟩
  rcases Json.positive?_eq_some_iff.mp isDays with ⟨isInt, positive⟩
  refine ⟨?_, days, positive, isInt⟩
  simpa [lockModes] using mode

end ObjectLock

namespace Configuration

/-- Lock settings are given, but the lock is disabled. -/
def GivesUnusedLock (configuration : Configuration) : Prop :=
  configuration.lockEnabled = .bool false ∧ ∃ lock, configuration.lock = some lock

theorem ignoresLock_iff {configuration : Configuration} :
    configuration.ignoresLock = true ↔ configuration.GivesUnusedLock := by
  simp only [ignoresLock, GivesUnusedLock, Bool.and_eq_true, decide_eq_true_eq,
    Option.isSome_iff_exists]

/-! ## Errors -/

/-- The errors of the sections that are judged before the lock. -/
def errorsBeforeLock (configuration : Configuration) : List FieldError :=
  configuration.nameErrors ++ configuration.environmentErrors ++ configuration.encryptionKeyErrors

/-- The errors of the sections that are judged after the lock. -/
def errorsAfterLock (configuration : Configuration) : List FieldError :=
  configuration.lifecycleErrors ++ configuration.statementErrors ++ configuration.trustedErrors ++
    configuration.loggingErrors ++ configuration.corsErrors

theorem errors_eq (strict : Bool) (configuration : Configuration) :
    configuration.errors strict =
      configuration.errorsBeforeLock ++ configuration.lockErrors strict ++
        configuration.errorsAfterLock := by
  simp only [errors, errorsBeforeLock, errorsAfterLock, List.append_assoc]

def unusedLockError : FieldError := { path := .ofRoot "object_lock", problem := .lockUnused }

theorem lockErrors_of_givesUnusedLock {configuration : Configuration}
    (unused : configuration.GivesUnusedLock) (strict : Bool) :
    configuration.lockErrors strict = if strict then [unusedLockError] else [] := by
  rw [lockErrors, unused.1, ignoresLock_iff.mpr unused]
  cases strict <;> rfl

theorem lockErrors_of_not_givesUnusedLock {configuration : Configuration}
    (used : ¬configuration.GivesUnusedLock) :
    configuration.lockErrors true = configuration.lockErrors false := by
  rw [lockErrors, lockErrors, Bool.eq_false_iff.mpr (mt ignoresLock_iff.mp used)]
  rfl

/-- What is accepted in strict mode is accepted without it. -/
theorem errors_lenient_eq_nil {configuration : Configuration}
    (noErrors : configuration.errors true = []) : configuration.errors false = [] := by
  rw [errors_eq, List.append_eq_nil_iff, List.append_eq_nil_iff] at *
  refine ⟨⟨noErrors.1.1, ?_⟩, noErrors.2⟩
  by_cases unused : configuration.GivesUnusedLock
  · exact lockErrors_of_givesUnusedLock unused false
  · rw [← lockErrors_of_not_givesUnusedLock unused, noErrors.1.2]

/-! ## Lines -/

theorem validate_lines_strict (configuration : Configuration) :
    (configuration.validate true).trail.lines = [] := by
  rw [validate_lines, if_neg (fun both => nomatch both.1)]

theorem validate_lines_of_givesUnusedLock {configuration : Configuration}
    (unused : configuration.GivesUnusedLock) :
    (configuration.validate false).trail.lines = [configuration.ignoredLockLine] := by
  rw [validate_lines, if_pos ⟨rfl, ignoresLock_iff.mpr unused⟩]

theorem validate_lines_of_not_givesUnusedLock {configuration : Configuration}
    (used : ¬configuration.GivesUnusedLock) (strict : Bool) :
    (configuration.validate strict).trail.lines = [] := by
  rw [validate_lines, if_neg fun both => used (ignoresLock_iff.mp both.2)]

/-- All warnings of compiling are those of validation. -/
theorem compile_warnings (strict traced : Bool) (configuration : Configuration) :
    (configuration.compile strict traced).trail.lines.filter (·.severity = .warning) =
      (configuration.validate strict).trail.lines := by
  have ofValidation : (configuration.validate strict).trail.lines.filter
      (·.severity = .warning) = (configuration.validate strict).trail.lines := by
    rw [validate_lines]
    split <;> rfl
  rw [compile_lines, List.filter_append, ofValidation]
  cases (configuration.compile strict traced).result <;> exact List.append_nil _

/-! ## Locks of artifacts -/

/-- A lock that is accepted is either disabled or enabled with sound settings. -/
theorem lockErrors_eq_nil_cases {strict : Bool} {configuration : Configuration}
    (noErrors : configuration.lockErrors strict = []) :
    configuration.lockEnabled = .bool false ∨
      configuration.lockEnabled = .bool true ∧
        ∃ lock, configuration.lock = some lock ∧ lock.IsSound := by
  unfold lockErrors at noErrors
  split at noErrors
  next isDisabled => exact .inl isDisabled
  next isEnabled =>
    refine .inr ⟨isEnabled, ?_⟩
    split at noErrors
    · contradiction
    next lock isLock => exact ⟨lock, isLock, ObjectLock.isSound_of_errors_eq_nil noErrors⟩
  · contradiction

theorem lock_of_compile {strict traced : Bool} {configuration : Configuration}
    {artifact : Artifact} {fingerprint : String}
    (compiled : (configuration.compile strict traced).result = .ok (artifact, fingerprint)) :
    (artifact.lock = none ↔ configuration.lockEnabled = .bool false) ∧
      ∀ lock, artifact.lock = some lock → lock.IsSound := by
  rcases compile_eq_ok_iff.mp compiled with ⟨noErrors, isArtifact, -⟩
  rcases errors_eq_nil_iff.mp noErrors with ⟨-, -, -, lockErrors, -⟩
  rcases Option.map_eq_some_iff.mp isArtifact with ⟨statements, -, rfl⟩
  rcases lockErrors_eq_nil_cases lockErrors with isDisabled | ⟨isEnabled, lock, isLock, isSound⟩
  · simp [artifact, isDisabled, Json.isGiven]
  · simp [artifact, isEnabled, isLock, Json.isGiven, isSound]

/-- Lock settings that have no effect are one error in strict mode, between those of the encryption
key and those of the lifecycle rules, and one warning without it, whatever else is wrong; nothing
else depends on the mode. An artifact has a lock exactly if the lock is enabled, with a known mode
and days above zero. -/
theorem strict_rejects_unused_lock_alone (configuration : Configuration) :
    (configuration.GivesUnusedLock →
      (∃ error, error.field = "object_lock" ∧
        configuration.errors true =
          configuration.errorsBeforeLock ++ error :: configuration.errorsAfterLock) ∧
      configuration.errors false =
        configuration.errorsBeforeLock ++ configuration.errorsAfterLock ∧
      ∃ line, line.severity = .warning ∧ line.Holds "reason" (.str "ObjectLockIgnored") ∧
        (configuration.validate false).trail.lines = [line]) ∧
    (¬configuration.GivesUnusedLock →
      configuration.errors true = configuration.errors false ∧
        (configuration.validate false).trail.lines = []) ∧
    (configuration.validate true).trail.lines = [] ∧
    (∀ strict traced, (configuration.compile strict traced).trail.lines.filter
      (·.severity = .warning) = (configuration.validate strict).trail.lines) ∧
    (∀ traced other artifact fingerprint,
      (configuration.compile true traced).result = .ok (artifact, fingerprint) →
        (configuration.compile false other).result = .ok (artifact, fingerprint)) ∧
    ∀ strict traced artifact fingerprint,
      (configuration.compile strict traced).result = .ok (artifact, fingerprint) →
        (artifact.lock = none ↔ configuration.lockEnabled = .bool false) ∧
          ∀ lock, artifact.lock = some lock →
            (lock.mode = .str "GOVERNANCE" ∨ lock.mode = .str "COMPLIANCE") ∧
              ∃ days : Int, 0 < days ∧ lock.retentionDays = .int days := by
  refine ⟨fun unused => ⟨⟨unusedLockError, by decide, ?_⟩, ?_, ?_⟩, fun used => ⟨?_, ?_⟩,
    configuration.validate_lines_strict,
    fun strict traced => configuration.compile_warnings strict traced, ?_, ?_⟩
  · rw [errors_eq, lockErrors_of_givesUnusedLock unused, if_pos rfl, List.append_assoc]
    rfl
  · rw [errors_eq, lockErrors_of_givesUnusedLock unused, if_neg Bool.false_ne_true,
      List.append_nil]
  · exact ⟨_, rfl, configuration.ignoredLockLine_holds.2, validate_lines_of_givesUnusedLock unused⟩
  · rw [errors_eq, errors_eq, lockErrors_of_not_givesUnusedLock used]
  · exact validate_lines_of_not_givesUnusedLock used false
  · intro traced other artifact fingerprint compiled
    rcases compile_eq_ok_iff.mp compiled with ⟨noErrors, given⟩
    exact compile_eq_ok_iff.mpr ⟨errors_lenient_eq_nil noErrors, given⟩
  · intro strict traced artifact fingerprint compiled
    rcases lock_of_compile compiled with ⟨isAbsent, isSound⟩
    refine ⟨isAbsent, fun lock isLock => ?_⟩
    have sound := isSound lock isLock
    exact ⟨sound.mode, sound.retentionDays⟩

/-- A configuration without a name and a key, whose lock has days and is disabled. -/
private def shelved : Configuration :=
  { name := .str "", environment := .str "prod", encryptionKey := .null, loggingBucket := .null
    loggingPrefix := .null, lockEnabled := .bool false
    lock := some { mode := .null, retentionDays := .int 30 }, trustedPrincipals := []
    trustedActions := none, lifecycleRules := [], statements := [], corsRules := [], tags := [] }

/-- A configuration with a lock that is enabled. -/
private def ledger : Configuration :=
  { shelved with
    name := .str "ledger"
    encryptionKey := .str
      "arn:aws:kms:us-east-1:123456789012:key/12345678-1234-1234-1234-123456789012"
    lockEnabled := .bool true
    lock := some { mode := .str "COMPLIANCE", retentionDays := .int 30 } }

/-- An unused lock is told beside other faults, and a lock in use is compiled in both modes. -/
theorem strict_rejects_unused_lock_of_shelved :
    (shelved.GivesUnusedLock ∧ (shelved.errors false).length = 2 ∧
      (shelved.errors true).length = 3 ∧
      ∃ line, line.Holds "reason" (.str "ObjectLockIgnored") ∧
        (shelved.validate false).trail.lines = [line]) ∧
    ¬ledger.GivesUnusedLock ∧ (ledger.validate false).trail.lines = [] ∧
      ∃ artifact fingerprint, (ledger.compile true false).result = .ok (artifact, fingerprint) ∧
        (ledger.compile false false).result = .ok (artifact, fingerprint) ∧
        artifact.lock ≠ none := by
  have unused : shelved.GivesUnusedLock := ⟨rfl, _, rfl⟩
  have used : ¬ledger.GivesUnusedLock := fun unused => nomatch unused.1
  rcases (strict_rejects_unused_lock_alone shelved).1 unused with
    ⟨-, -, line, -, holds, isOnly⟩
  rcases strict_rejects_unused_lock_alone ledger with ⟨-, silent, -, -, lenient, locked⟩
  refine ⟨⟨unused, by decide +kernel, by decide +kernel, line, holds, isOnly⟩, used,
    (silent used).2, ?_⟩
  have compiles : (ledger.compile true false).result.isOk := by decide +kernel
  cases compiled : (ledger.compile true false).result with
  | error failure =>
      rw [compiled] at compiles
      contradiction
  | ok result =>
      refine ⟨result.1, result.2, rfl, lenient _ _ _ _ compiled, fun noLock => ?_⟩
      exact nomatch (locked _ _ _ _ compiled).1.mp noLock

end Configuration

end BucketGuard
