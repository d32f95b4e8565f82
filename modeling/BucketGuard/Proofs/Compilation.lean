import BucketGuard.Proofs.Outcome
import BucketGuard.Session

namespace BucketGuard

/-! What compiling gives. It rejects what validation finds something wrong with, and gives every
other configuration its artifact, unless the policy has no partition to name or no text. Nothing is
asked of the service on the way. -/

namespace Rejection

theorem orElse_eq_ok_iff {α : Type} {errors : List FieldError} {value result : α} :
    orElse errors value = .ok result ↔ errors = [] ∧ value = result := by
  cases errors with
  | nil => simp [orElse]
  | cons first rest => simp [orElse]

theorem orElse_eq_error_iff {α : Type} {errors : List FieldError} {value : α}
    {rejection : Rejection} :
    orElse errors value = .error rejection ↔ errors = rejection.errors := by
  cases errors with
  | nil => simp [orElse, Rejection.errors]
  | cons first rest => cases rejection; simp [orElse, Rejection.errors]

end Rejection

theorem Specification.configuration_eq_ok_iff {fields : Specification.Fields}
    {configuration : Configuration} :
    Specification.configuration fields = .ok configuration ↔
      (Specification.shapedConfiguration fields).errors = [] ∧
        (Specification.shapedConfiguration fields).value = configuration :=
  Rejection.orElse_eq_ok_iff

namespace Policy

theorem map_snd_statements (arn : BucketArn) (configuration : Configuration) :
    (statements arn configuration).map Prod.snd =
      [denyInsecureTransport arn] ++
        (if configuration.trustedPrincipals.isEmpty then []
        else [allowTrusted arn configuration.trustedPrincipals configuration.trustedActions]) ++
        [denyUnencryptedUploads arn, denyIncorrectKey arn configuration.encryptionKey] ++
        customFrom 0 configuration.statements := by
  have custom : ((customFrom 0 configuration.statements).map
      fun statement => (StatementKind.custom, statement)).map Prod.snd =
        customFrom 0 configuration.statements := by
    rw [List.map_map]
    exact List.map_id _
  rw [statements, List.map_append, List.map_append, List.map_append, custom]
  cases configuration.trustedPrincipals.isEmpty <;> rfl

section Every

variable {holds : Statement → Prop}
  (ofNamed : ∀ index statement, holds (named index statement) ↔ holds statement)

include ofNamed

private theorem forall_customFrom_iff (index : Nat) (statements : List Statement) :
    (∀ statement ∈ customFrom index statements, holds statement) ↔
      ∀ statement ∈ statements, holds statement := by
  induction statements generalizing index with
  | nil => exact Iff.rfl
  | cons statement rest induction =>
      rw [customFrom, List.forall_mem_cons, List.forall_mem_cons, ofNamed, induction]

/-- What the baseline has, and what does not depend on the name of a statement, all statements of a
policy have if the custom ones do, and only then. -/
theorem forall_statements_iff {arn : BucketArn} {configuration : Configuration}
    (transport : holds (denyInsecureTransport arn))
    (trusted : holds
      (allowTrusted arn configuration.trustedPrincipals configuration.trustedActions))
    (unencrypted : holds (denyUnencryptedUploads arn))
    (incorrectKey : holds (denyIncorrectKey arn configuration.encryptionKey)) :
    (∀ statement ∈ (statements arn configuration).map Prod.snd, holds statement) ↔
      ∀ statement ∈ configuration.statements, holds statement := by
  have ofTrusted : ∀ statement ∈ (if configuration.trustedPrincipals.isEmpty then []
      else [allowTrusted arn configuration.trustedPrincipals configuration.trustedActions]),
        holds statement := by
    split
    · exact fun _ member => nomatch member
    · exact List.forall_mem_singleton.mpr trusted
  rw [map_snd_statements, List.forall_mem_append, forall_customFrom_iff ofNamed,
    List.forall_mem_append, List.forall_mem_append]
  exact and_iff_right ⟨⟨List.forall_mem_singleton.mpr transport, ofTrusted⟩,
    List.forall_mem_cons.mpr ⟨unencrypted, List.forall_mem_singleton.mpr incorrectKey⟩⟩

end Every

end Policy

namespace Configuration

/-! ## Results -/

theorem validate_result (strict : Bool) (configuration : Configuration) :
    (configuration.validate strict).result =
      (configuration.check strict).mapError .rejected := by
  unfold validate
  split
  · rw [Outcome.bind_result, Outcome.leave_result, Outcome.ofExcept]
    rfl
  · rfl

theorem validateCounting_result (strict : Bool) (configuration : Configuration) :
    (configuration.validateCounting strict).result =
      (configuration.check strict).mapError .rejected := by
  rw [← validate_result]
  simp only [validateCounting]
  split <;> rfl

/-- The artifact of the configuration, where its policy has a partition to name. -/
def artifact? (configuration : Configuration) : Option Artifact :=
  configuration.policy?.map fun statements => configuration.artifact (statements.map Prod.snd)

/-- What compiling an accepted configuration gives. -/
def accepted (configuration : Configuration) : Except Failure (Artifact × String) :=
  match configuration.artifact? with
  | none => .error (.keyNotText configuration.encryptionKey.kind)
  | some artifact =>
      (artifact.fingerprint.mapError .unwritable).map fun fingerprint => (artifact, fingerprint)

theorem compile_result (strict traced : Bool) (configuration : Configuration) :
    (configuration.compile strict traced).result =
      (configuration.check strict).mapError .rejected >>= fun _ => configuration.accepted := by
  rw [compile, Outcome.asSpan_result, compileUntraced, Outcome.bind_result,
    validateCounting_result]
  congr 1
  funext _
  rw [Outcome.bind_result, accepted, artifact?, compose]
  cases configuration.policy? with
  | none => rfl
  | some statements =>
      simp only [Outcome.leave_result, Outcome.ofExcept_result, Outcome.pure_result,
        Option.map_some, bind, Except.bind]
      cases (configuration.artifact (statements.map Prod.snd)).fingerprint <;> rfl

theorem accepted_eq_ok_iff {configuration : Configuration} {artifact : Artifact}
    {fingerprint : String} :
    configuration.accepted = .ok (artifact, fingerprint) ↔
      configuration.artifact? = some artifact ∧ artifact.fingerprint = .ok fingerprint := by
  rw [accepted]
  cases configuration.artifact? with
  | none => simp
  | some compiled =>
      constructor
      · intro equal
        cases written : compiled.fingerprint with
        | error fault => simp [written, Except.map] at equal
        | ok text =>
            simp only [written, Except.mapError_ok, Except.map, Except.ok.injEq,
              Prod.mk.injEq] at equal
            rcases equal with ⟨rfl, rfl⟩
            exact ⟨rfl, written⟩
      · rintro ⟨same, written⟩
        cases same
        simp [written, Except.map]

theorem check_eq_ok_iff {strict : Bool} {configuration : Configuration} :
    configuration.check strict = .ok () ↔ configuration.errors strict = [] := by
  rw [check, Rejection.orElse_eq_ok_iff, and_iff_left rfl]

theorem check_eq_error_iff {strict : Bool} {configuration : Configuration}
    {rejection : Rejection} :
    configuration.check strict = .error rejection ↔
      configuration.errors strict = rejection.errors :=
  Rejection.orElse_eq_error_iff

/-- A configuration that compiles has nothing wrong with it, and its policy has a text. -/
theorem compile_eq_ok_iff {strict traced : Bool} {configuration : Configuration}
    {artifact : Artifact} {fingerprint : String} :
    (configuration.compile strict traced).result = .ok (artifact, fingerprint) ↔
      configuration.errors strict = [] ∧ configuration.artifact? = some artifact ∧
        artifact.fingerprint = .ok fingerprint := by
  rw [compile_result, Except.bind_eq_ok_iff, ← check_eq_ok_iff, accepted_eq_ok_iff]
  cases configuration.check strict with
  | error rejection => simp
  | ok _ => simp

/-! ## Requests -/

theorem validate_requests (strict : Bool) (configuration : Configuration) :
    (configuration.validate strict).trail.requests = [] := by
  unfold validate
  split
  · exact Outcome.bind_requests_eq_nil rfl fun _ => rfl
  · rfl

theorem validateCounting_requests (strict : Bool) (configuration : Configuration) :
    (configuration.validateCounting strict).trail.requests = [] := by
  simp only [validateCounting]
  split
  · rw [Trail.requests_append, validate_requests]
    rfl
  · exact validate_requests strict configuration

theorem compose_requests (configuration : Configuration) :
    configuration.compose.trail.requests = [] := by
  unfold compose
  split <;> rfl

theorem compile_requests (strict traced : Bool) (configuration : Configuration) :
    (configuration.compile strict traced).trail.requests = [] := by
  rw [compile, Outcome.asSpan_requests, compileUntraced]
  apply Outcome.bind_requests_eq_nil (validateCounting_requests strict configuration)
  intro _
  apply Outcome.bind_requests_eq_nil (compose_requests configuration)
  intro statements
  apply Outcome.bind_requests_eq_nil rfl
  intro _
  apply Outcome.bind_requests_eq_nil rfl
  intro fingerprint
  apply Outcome.bind_requests_eq_nil rfl
  intro _
  exact Outcome.bind_requests_eq_nil rfl fun _ => rfl

end Configuration

namespace Session

theorem compile_result (specification : List (String × Json)) (strict traced : Bool) :
    (Session.compile specification strict traced).result =
      (Specification.configuration specification).mapError .rejected >>= fun configuration =>
        (configuration.compile strict traced).result :=
  Outcome.bind_result _ _

/-- A specification compiles if it has the shape of a configuration that does. -/
theorem compile_eq_ok_iff {specification : List (String × Json)} {strict traced : Bool}
    {artifact : Artifact} {fingerprint : String} :
    (Session.compile specification strict traced).result = .ok (artifact, fingerprint) ↔
      ∃ configuration, Specification.configuration specification = .ok configuration ∧
        (configuration.compile strict traced).result = .ok (artifact, fingerprint) := by
  rw [compile_result, Except.bind_eq_ok_iff]
  cases Specification.configuration specification with
  | error rejection => simp
  | ok configuration => simp

theorem compile_requests (specification : List (String × Json)) (strict traced : Bool) :
    (Session.compile specification strict traced).trail.requests = [] :=
  Outcome.bind_requests_eq_nil rfl fun configuration =>
    configuration.compile_requests strict traced

end Session

end BucketGuard
