import BucketGuard.Proofs.Acceptance
import BucketGuard.Proofs.Dialogue
import BucketGuard.Proofs.Writability

namespace BucketGuard

/-! How far validation is sufficient for compilation. What validation accepts compiles unless a
custom statement has keys that cannot be written, and then compiling ends with neither an artifact
nor a rejection. -/

/-! ## Accepted specifications -/

namespace Specification

/-- The configuration that a specification asks for, if nothing is wrong with either. -/
def judged (specification : List (String × Json)) (strict : Bool) :
    Except Rejection Configuration := do
  let configuration ← Specification.configuration specification
  configuration.check strict
  return configuration

theorem judged_eq_ok_iff {specification : List (String × Json)} {strict : Bool}
    {configuration : Configuration} :
    judged specification strict = .ok configuration ↔
      Specification.configuration specification = .ok configuration ∧
        configuration.errors strict = [] := by
  rw [judged]
  constructor
  · intro isJudged
    rcases Except.bind_eq_ok_iff.mp isJudged with ⟨read, isRead, isJudged⟩
    rcases Except.bind_eq_ok_iff.mp isJudged with ⟨_, checked, same⟩
    cases same
    exact ⟨isRead, Configuration.check_eq_ok_iff.mp checked⟩
  · rintro ⟨isRead, accepted⟩
    rw [isRead, ← Configuration.check_eq_ok_iff] at *
    exact Except.bind_eq_ok_iff.mpr ⟨configuration, rfl, by rw [accepted]; rfl⟩

/-- Custom statements can be written wherever the specification is accepted. -/
def WritableIfAccepted (specification : List (String × Json)) (strict : Bool) : Prop :=
  ∀ configuration, judged specification strict = .ok configuration →
    ∀ statement ∈ configuration.statements, statement.Writable

theorem writableIfAccepted_of_error {specification : List (String × Json)} {strict : Bool}
    {rejection : Rejection} (rejected : judged specification strict = .error rejection) :
    WritableIfAccepted specification strict :=
  fun _ accepted => nomatch rejected.symm.trans accepted

theorem writableIfAccepted_iff {specification : List (String × Json)} {strict : Bool}
    {configuration : Configuration} (accepted : judged specification strict = .ok configuration) :
    WritableIfAccepted specification strict ↔
      ∀ statement ∈ configuration.statements, statement.Writable := by
  constructor
  · exact fun writable => writable configuration accepted
  · intro writable other isOther
    rw [← Except.ok.inj (accepted.symm.trans isOther)]
    exact writable

end Specification

namespace Configuration

theorem accepted_of_writable {strict : Bool} {configuration : Configuration}
    (accepted : configuration.errors strict = [])
    (writable : ∀ statement ∈ configuration.statements, statement.Writable) :
    ∃ artifact text, artifact.canonical = .ok text ∧
      configuration.accepted = .ok (artifact, Digest.sha256 text) := by
  rcases exists_artifact accepted with ⟨arn, isArtifact⟩
  rcases (Artifact.exists_canonical_iff (configuration.artifact
    ((Policy.statements arn configuration).map Prod.snd))).mpr
      ((Policy.statements_writable_iff arn configuration).mpr writable) with ⟨text, written⟩
  exact ⟨_, text, written,
    accepted_eq_ok_iff.mpr ⟨isArtifact, Artifact.fingerprint_of_canonical written⟩⟩

theorem accepted_of_not_writable {strict : Bool} {configuration : Configuration}
    (accepted : configuration.errors strict = [])
    (unwritable : ¬∀ statement ∈ configuration.statements, statement.Writable) :
    ∃ fault, configuration.accepted = .error (.unwritable fault) := by
  rcases exists_artifact accepted with ⟨arn, isArtifact⟩
  rw [Configuration.accepted, isArtifact]
  cases written : (configuration.artifact
      ((Policy.statements arn configuration).map Prod.snd)).fingerprint with
  | error fault => exact ⟨fault, by simp [written, Except.map]⟩
  | ok fingerprint =>
      have canonical := Artifact.exists_canonical_of_fingerprint written
      rw [Artifact.exists_canonical_iff] at canonical
      exact absurd ((Policy.statements_writable_iff arn configuration).mp canonical) unwritable

end Configuration

namespace Session

theorem compile_eq_judged (specification : List (String × Json)) (strict traced : Bool) :
    (Session.compile specification strict traced).result =
      (Specification.judged specification strict).mapError .rejected >>=
        Configuration.accepted := by
  rw [compile_result, Specification.judged]
  cases Specification.configuration specification with
  | error rejection => rfl
  | ok configuration =>
      change (configuration.compile strict traced).result = _
      rw [Configuration.compile_result]
      change _ = (configuration.check strict >>= fun _ =>
        .ok configuration).mapError .rejected >>= Configuration.accepted
      cases configuration.check strict <;> rfl

end Session

namespace CommandLine

/-- The command tells that a specification is valid if it is accepted, and only then. -/
theorem validateEnding_exitCode_iff (posture : Posture) (specification : List (String × Json)) :
    (validateEnding posture specification).exitCode = 0 ↔
      ∃ configuration, Specification.judged specification posture.strict = .ok configuration := by
  have validated : (do
      let configuration ← Outcome.ofExcept
        ((Specification.configuration specification).mapError .rejected)
      configuration.validate posture.strict
      return configuration : Outcome Configuration).result =
        (Specification.judged specification posture.strict).mapError .rejected := by
    simp only [Outcome.bind_result, Outcome.ofExcept_result, Configuration.validate_result,
      Outcome.pure_result, Specification.judged]
    cases Specification.configuration specification with
    | error rejection => rfl
    | ok configuration =>
        change _ = (configuration.check posture.strict >>= fun _ => .ok configuration).mapError _
        cases checked : configuration.check posture.strict <;>
          simp [checked, bind, Except.bind]
  simp only [validateEnding, validated]
  cases judged : Specification.judged specification posture.strict with
  | error rejection => exact iff_of_false (endFailed_exitCode _ _) fun ⟨_, isOk⟩ => nomatch isOk
  | ok configuration => exact iff_of_true rfl ⟨configuration, rfl⟩

/-- Compiling to the standard output succeeds where there is an artifact, and only there. -/
theorem compileDialogue_standard (posture : Posture) (pretty : Bool)
    (specification : List (String × Json)) :
    ∃ ending, compileDialogue posture pretty "-" specification = .ended ending ∧
      (ending.exitCode = 0 ↔ ∃ artifact fingerprint,
        (Session.compile specification posture.strict false).result =
          .ok (artifact, fingerprint)) := by
  rcases compileDialogue_cases posture pretty "-" specification with
    ⟨failure, log, failed, isDialogue⟩ |
      ⟨artifact, fingerprint, text, log, compiled, -, isDialogue⟩
  · refine ⟨_, isDialogue, iff_of_false (endFailed_exitCode _ _) ?_⟩
    rw [failed]
    simp
  · exact ⟨_, isDialogue, iff_of_true rfl ⟨artifact, fingerprint, compiled⟩⟩

end CommandLine

namespace Session

/-- The three ways in which compiling can end: with a rejection where validation finds something,
and otherwise with an artifact or without a text, as the custom statements can be written or not.
-/
theorem compile_cases (specification : List (String × Json)) (strict traced : Bool) :
    (∃ rejection, Specification.judged specification strict = .error rejection ∧
        (Session.compile specification strict traced).result = .error (.rejected rejection)) ∨
      ∃ configuration, Specification.judged specification strict = .ok configuration ∧
        ((∀ statement ∈ configuration.statements, statement.Writable) ∧
            (∃ artifact text, artifact.canonical = .ok text ∧
              (Session.compile specification strict traced).result =
                .ok (artifact, Digest.sha256 text)) ∨
          (¬∀ statement ∈ configuration.statements, statement.Writable) ∧
            ∃ fault, (Session.compile specification strict traced).result =
              .error (.unwritable fault)) := by
  rw [compile_eq_judged]
  cases judged : Specification.judged specification strict with
  | error rejection => exact .inl ⟨rejection, rfl, rfl⟩
  | ok configuration =>
      have accepted := (Specification.judged_eq_ok_iff.mp judged).2
      refine .inr ⟨configuration, rfl, ?_⟩
      by_cases writable : ∀ statement ∈ configuration.statements, statement.Writable
      · exact .inl ⟨writable, configuration.accepted_of_writable accepted writable⟩
      · exact .inr ⟨writable, configuration.accepted_of_not_writable accepted writable⟩

theorem returns_iff_writable (specification : List (String × Json)) (strict traced : Bool) :
    ((∃ rejection, (Session.compile specification strict traced).result =
          .error (.rejected rejection)) ∨
        ∃ artifact text, artifact.canonical = .ok text ∧
          (Session.compile specification strict traced).result =
            .ok (artifact, Digest.sha256 text)) ↔
      Specification.WritableIfAccepted specification strict := by
  rcases compile_cases specification strict traced with
    ⟨rejection, rejected, ended⟩ |
      ⟨configuration, accepted, ⟨writable, ended⟩ | ⟨unwritable, ended⟩⟩
  · exact iff_of_true (.inl ⟨rejection, ended⟩) (Specification.writableIfAccepted_of_error rejected)
  · exact iff_of_true (.inr ended) ((Specification.writableIfAccepted_iff accepted).mpr writable)
  · rcases ended with ⟨fault, ended⟩
    refine iff_of_false ?_ (mt (Specification.writableIfAccepted_iff accepted).mp unwritable)
    rw [ended]
    rintro (⟨rejection, isRejection⟩ | ⟨artifact, text, -, isArtifact⟩)
    · exact nomatch isRejection
    · exact nomatch isArtifact

theorem failure_cases {specification : List (String × Json)} {strict traced : Bool}
    {failure : Failure}
    (failed : (Session.compile specification strict traced).result = .error failure) :
    (∃ rejection, failure = .rejected rejection) ∨ ∃ fault, failure = .unwritable fault := by
  rcases compile_cases specification strict traced with
    ⟨rejection, -, ended⟩ | ⟨-, -, ⟨-, artifact, text, -, ended⟩ | ⟨-, fault, ended⟩⟩
  · exact .inl ⟨rejection, Except.error.inj (failed.symm.trans ended)⟩
  · exact nomatch failed.symm.trans ended
  · exact .inr ⟨fault, Except.error.inj (failed.symm.trans ended)⟩

theorem commands_agree_iff_writable (specification : List (String × Json))
    (posture : CommandLine.Posture) (pretty : Bool) :
    ((CommandLine.validateEnding posture specification).exitCode = 0 ↔
        ∃ ending, CommandLine.compileDialogue posture pretty "-" specification = .ended ending ∧
          ending.exitCode = 0) ↔
      Specification.WritableIfAccepted specification posture.strict := by
  rcases CommandLine.compileDialogue_standard posture pretty specification with
    ⟨ending, isEnding, compiles⟩
  rw [CommandLine.validateEnding_exitCode_iff, isEnding]
  simp only [CommandLine.Dialogue.ended.injEq, exists_eq_left', compiles]
  rcases compile_cases specification posture.strict false with
    ⟨rejection, rejected, ended⟩ |
      ⟨configuration, accepted, ⟨writable, artifact, text, -, ended⟩ | ⟨unwritable, fault, ended⟩⟩
  · refine iff_of_true ?_ (Specification.writableIfAccepted_of_error rejected)
    simp [rejected, ended]
  · refine iff_of_true ?_ ((Specification.writableIfAccepted_iff accepted).mpr writable)
    simp [accepted, ended]
  · refine iff_of_false ?_ (mt (Specification.writableIfAccepted_iff accepted).mp unwritable)
    simp [accepted, ended]

/-- Compiling ends with a rejection or with an artifact that has a text and a fingerprint exactly
where the custom statements of an accepted specification can be written, and any other end tells of
keys that cannot be. There alone the two commands agree on what is valid. -/
theorem compile_returns_iff_writable (specification : List (String × Json))
    (strict traced pretty : Bool) (threshold : Int) :
    (((∃ rejection, (Session.compile specification strict traced).result =
            .error (.rejected rejection)) ∨
          ∃ artifact text, artifact.canonical = .ok text ∧
            (Session.compile specification strict traced).result =
              .ok (artifact, Digest.sha256 text)) ↔
        Specification.WritableIfAccepted specification strict) ∧
      (∀ failure, (Session.compile specification strict traced).result = .error failure →
        (∃ rejection, failure = .rejected rejection) ∨ ∃ fault, failure = .unwritable fault) ∧
      (((CommandLine.validateEnding { strict, threshold } specification).exitCode = 0 ↔
          ∃ ending, CommandLine.compileDialogue { strict, threshold } pretty "-" specification =
            .ended ending ∧ ending.exitCode = 0) ↔
        Specification.WritableIfAccepted specification strict) :=
  ⟨returns_iff_writable specification strict traced, fun _ failed => failure_cases failed,
    commands_agree_iff_writable specification { strict, threshold } pretty⟩

private def listedType : List (String × Json) :=
  [("name", .str "my-data-bucket"), ("environment", .str "prod"),
    ("encryption", .obj [("kmsKeyId",
      .str "arn:aws:kms:us-east-1:123456789012:key/12345678-1234-1234-1234-123456789012")]),
    ("policy", .obj [("statements", .arr [.obj [("sid", .str "S"),
      ("principals", .arr [.obj [("type", .arr [.str "AWS"]), ("identifiers", .arr [.str "x"])]]),
      ("actions", .arr [.str "s3:GetObject"]), ("resources", .arr [.str "*"])]])])]

/-- Validation accepts a list for the type of a principal, and compiling fails on it. -/
theorem listedType_valid_without_text :
    (CommandLine.validateEnding { strict := false, threshold := 20 } listedType).exitCode = 0 ∧
      (Session.compile listedType false false).result = .error (.unwritable (.composite .arr)) := by
  refine ⟨by decide +kernel, ?_⟩
  have failed : (Session.compile listedType false false).failure? =
      some (.unwritable (.composite .arr)) := by decide +kernel
  unfold Outcome.failure? at failed
  split at failed
  · rename_i failure isFailure
    rw [isFailure, Option.some.inj failed]
  · contradiction

end Session

end BucketGuard
