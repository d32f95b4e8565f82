import BucketGuard.Proofs.EventLine

namespace BucketGuard

/-! The trail of compiling. Validation tells at most of ignored lock settings. Where it rejects the
configuration the errors are counted, and where an artifact comes out its statements and the success
are, and the success is told. What the lines tell can be read from them. -/

-- Every character of a text, and not every character, whatever else is imported.
attribute [local instance (2000)] List.decidableBAll

namespace Trail

@[simp] theorem lines_append (first second : Trail) :
    (first ++ second).lines = first.lines ++ second.lines := rfl

@[simp] theorem counts_append (first second : Trail) :
    (first ++ second).counts = first.counts ++ second.counts := rfl

end Trail

namespace Configuration

def ignoredLockLine (configuration : Configuration) : LogLine :=
  { severity := .warning, text := configuration.ignoredLockEvent.line }

def compiledLine (configuration : Configuration) (artifact : Artifact) (fingerprint : String) :
    LogLine :=
  { severity := .info, text := (configuration.compiledEvent artifact fingerprint).line }

/-! ## Lines -/

private theorem redactValue_word {words : List String} {text : String}
    (noSeparator : ∀ character ∈ text.toList, Redaction.isSeparator character = false) :
    Redaction.redactValue words (.str text) = .str text :=
  congrArg Tree.str (Redaction.redact_of_no_separator noSeparator)

/-- The event of ignored lock settings is known by its reason. -/
theorem ignoredLockLine_holds (configuration : Configuration) :
    configuration.ignoredLockLine.Holds "event" (.str "warning") ∧
      configuration.ignoredLockLine.Holds "reason" (.str "ObjectLockIgnored") := by
  have wellFormed : Json.WellFormed (.obj configuration.ignoredLockEvent.members) := by
    refine .obj (by decide : ["controller", "bucket", "environment", "event", "reason",
      "message"].Nodup) ?_
    simp [Event.members, ignoredLockEvent, Members.putAll]
  exact ⟨Event.holds_of_get? wellFormed rfl (by decide) (redactValue_word (by decide)) .warning,
    Event.holds_of_get? wellFormed rfl (by decide) (redactValue_word (by decide)) .warning⟩

/-- The event of a success tells what came out. -/
theorem compiledLine_holds {strict : Bool} {configuration : Configuration} {artifact : Artifact}
    {fingerprint : String} (noErrors : configuration.errors strict = [])
    (written : artifact.fingerprint = .ok fingerprint) :
    (configuration.compiledLine artifact fingerprint).Holds "event" (.str "compiled") ∧
      (configuration.compiledLine artifact fingerprint).Holds "statements"
        (.int artifact.statements.length) ∧
      (configuration.compiledLine artifact fingerprint).Holds "lifecycle_rules"
        (.int artifact.lifecycleRules.length) ∧
      (configuration.compiledLine artifact fingerprint).Holds "object_lock"
        (.bool artifact.lock.isSome) ∧
      (configuration.compiledLine artifact fingerprint).Holds "fingerprint" (.str fingerprint) := by
  rcases errors_eq_nil_iff.mp noErrors with ⟨nameErrors, environmentErrors, -⟩
  rcases exists_name nameErrors with ⟨name, isName⟩
  rcases environment_of_accepted environmentErrors with ⟨environment, -, isEnvironment⟩
  have wellFormed :
      Json.WellFormed (.obj (configuration.compiledEvent artifact fingerprint).members) := by
    refine .obj (by decide : Event.keys.Nodup) ?_
    simp [Event.members, compiledEvent, Members.putAll, Members.put, isName, isEnvironment,
      Tree.every_leaf_iff, Scalar.InForm]
  have noSeparator : ∀ character ∈ fingerprint.toList,
      Redaction.isSeparator character = false := by
    rcases Except.bind_eq_ok_iff.mp written with ⟨text, -, isDigest⟩
    have digits : ∀ digit ∈ "0123456789abcdef".toList, Redaction.isSeparator digit = false := by
      decide
    intro character member
    rw [← show Digest.sha256 text = fingerprint from Except.ok.inj isDigest] at member
    exact digits character (Digest.mem_of_mem_sha256 member)
  exact ⟨Event.holds_of_get? wellFormed rfl (by decide) (redactValue_word (by decide)) .info,
    Event.holds_of_get? wellFormed rfl (by decide) rfl .info,
    Event.holds_of_get? wellFormed rfl (by decide) rfl .info,
    Event.holds_of_get? wellFormed rfl (by decide) rfl .info,
    Event.holds_of_get? wellFormed rfl (by decide) (redactValue_word noSeparator) .info⟩

/-! ## Validation -/

theorem validate_lines (strict : Bool) (configuration : Configuration) :
    (configuration.validate strict).trail.lines =
      if strict = false ∧ configuration.ignoresLock then [configuration.ignoredLockLine] else [] := by
  unfold validate
  cases strict <;> cases configuration.ignoresLock <;> rfl

theorem validate_counts (strict : Bool) (configuration : Configuration) :
    (configuration.validate strict).trail.counts = [] := by
  unfold validate
  cases strict <;> cases configuration.ignoresLock <;> rfl

theorem validateCounting_of_error {strict : Bool} {configuration : Configuration}
    {rejection : Rejection} (rejected : configuration.check strict = .error rejection) :
    configuration.validateCounting strict =
      { result := .error (.rejected rejection)
        trail := (configuration.validate strict).trail ++ .ofCounts (rejectionCounts rejection) } := by
  have result := configuration.validate_result strict
  rw [rejected, Except.mapError_error] at result
  simp only [validateCounting, result]

theorem validateCounting_of_ok {strict : Bool} {configuration : Configuration}
    (accepted : configuration.check strict = .ok ()) :
    configuration.validateCounting strict = configuration.validate strict := by
  have result := configuration.validate_result strict
  rw [accepted, Except.mapError_ok] at result
  simp only [validateCounting, result]

/-! ## Compiling -/

/-- What stops the work on an accepted configuration is no rejection. -/
theorem accepted_ne_rejected (configuration : Configuration) (rejection : Rejection) :
    configuration.accepted ≠ .error (.rejected rejection) := by
  rw [accepted]
  cases configuration.artifact? with
  | none => simp
  | some artifact => cases written : artifact.fingerprint <;> simp [written, Except.map]

/-- A rejection by compiling is one by validation. -/
theorem compile_eq_rejected_iff {strict traced : Bool} {configuration : Configuration}
    {rejection : Rejection} :
    (configuration.compile strict traced).result = .error (.rejected rejection) ↔
      configuration.check strict = .error rejection := by
  rw [compile_result]
  cases configuration.check strict with
  | error other => simp [bind, Except.bind]
  | ok _ => simpa [bind, Except.bind] using configuration.accepted_ne_rejected rejection

/-- The line of a success, if there is one. -/
def successLines (configuration : Configuration) :
    Except Failure (Artifact × String) → List LogLine
  | .ok (artifact, fingerprint) => [configuration.compiledLine artifact fingerprint]
  | .error _ => []

/-- What compiling leaves of an accepted configuration once its statements are composed. -/
private theorem compileUntraced_of_policy {strict : Bool} {configuration : Configuration}
    {statements : List (StatementKind × Statement)}
    (accepted : configuration.check strict = .ok ())
    (isPolicy : configuration.policy? = some statements) :
    (configuration.compileUntraced strict).trail.lines =
        (configuration.validate strict).trail.lines ++
          configuration.successLines configuration.accepted ∧
      ∀ artifact fingerprint, configuration.accepted = .ok (artifact, fingerprint) →
        (configuration.compileUntraced strict).trail.counts =
          (statements.map fun statement => .emitted statement.1) ++ [.timed, .compiled true] := by
  have composed : configuration.compose =
      { result := .ok (statements.map Prod.snd)
        trail := .ofCounts (statements.map fun statement => .emitted statement.1) } := by
    rw [compose, isPolicy]
  have isOk : (configuration.validateCounting strict).result = .ok () := by
    rw [validateCounting_result, accepted, Except.mapError_ok]
  rw [compileUntraced, Outcome.bind_of_ok _ isOk, validateCounting_of_ok accepted, composed,
    Configuration.accepted, artifact?, isPolicy, Option.map_some]
  simp only [Trail.lines_append, Trail.counts_append, validate_counts]
  cases written : (configuration.artifact (statements.map Prod.snd)).fingerprint with
  | error fault =>
      simp only [bind, Outcome.leave, Outcome.ofExcept, written, Except.mapError_error]
      exact ⟨rfl, fun _ _ isOk => absurd isOk (by simp [Except.map])⟩
  | ok text =>
      simp only [bind, Outcome.leave, Outcome.ofExcept, written, Except.mapError_ok]
      exact ⟨rfl, fun _ _ _ => rfl⟩

theorem compile_counts_of_rejected {strict : Bool} {configuration : Configuration}
    {rejection : Rejection} (rejected : configuration.check strict = .error rejection)
    (traced : Bool) :
    (configuration.compile strict traced).trail.counts = rejectionCounts rejection := by
  have counted := validateCounting_of_error rejected
  simp only [compile, Outcome.asSpan, compileUntraced]
  rw [Outcome.bind_of_error _ (by rw [counted]), counted, Trail.counts_append, validate_counts]
  rfl

/-- Behind the lines of validation stands that of a success alone. -/
theorem compile_lines (strict traced : Bool) (configuration : Configuration) :
    (configuration.compile strict traced).trail.lines =
      (configuration.validate strict).trail.lines ++
        configuration.successLines (configuration.compile strict traced).result := by
  rw [compile_result]
  cases checked : configuration.check strict with
  | error rejection =>
      have counted := validateCounting_of_error checked
      simp only [compile, Outcome.asSpan, compileUntraced]
      rw [Outcome.bind_of_error _ (by rw [counted]), counted]
      rfl
  | ok _ =>
      show (configuration.compileUntraced strict).trail.lines =
        _ ++ configuration.successLines configuration.accepted
      cases isPolicy : configuration.policy? with
      | some statements => exact (compileUntraced_of_policy checked isPolicy).1
      | none =>
          have isOk : (configuration.validateCounting strict).result = .ok () := by
            rw [validateCounting_result, checked, Except.mapError_ok]
          rw [compileUntraced, Outcome.bind_of_ok _ isOk, validateCounting_of_ok checked, compose,
            accepted, artifact?, isPolicy]
          rfl

theorem compile_counts_of_ok {strict traced : Bool} {configuration : Configuration}
    {artifact : Artifact} {fingerprint : String}
    (compiled : (configuration.compile strict traced).result = .ok (artifact, fingerprint)) :
    ∃ statements, configuration.policy? = some statements ∧
      artifact = configuration.artifact (statements.map Prod.snd) ∧
      (configuration.compile strict traced).trail.counts =
        (statements.map fun statement => .emitted statement.1) ++ [.timed, .compiled true] := by
  rcases compile_eq_ok_iff.mp compiled with ⟨noErrors, isArtifact, written⟩
  rcases Option.map_eq_some_iff.mp isArtifact with ⟨statements, isPolicy, rfl⟩
  exact ⟨statements, isPolicy, rfl,
    (compileUntraced_of_policy (check_eq_ok_iff.mpr noErrors) isPolicy).2 _ _
      (accepted_eq_ok_iff.mpr ⟨isArtifact, written⟩)⟩

end Configuration

end BucketGuard
