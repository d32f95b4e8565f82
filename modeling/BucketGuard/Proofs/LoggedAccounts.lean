import BucketGuard.Proofs.EventText
import BucketGuard.Proofs.Provisioning
import BucketGuard.Tracing

namespace BucketGuard

/-! Accounts in the log. A line of the log shows an account if it has the ARN of one. What the
service answers never brings one there; a bucket that is named like one does, and so does the fault
with which the set-up of tracing fails, and an escape in the name of a configuration may. -/

open Redaction

/-- The line has an ARN with the number of an account. -/
def LogLine.ShowsAccount (line : LogLine) : Prop := accountPattern.OccursIn line.text.toList

/-- A blank belongs to no ARN, so it cuts a line in two. -/
private theorem occursIn_append_blank_iff {first rest : List Char} :
    accountPattern.OccursIn (first ++ ' ' :: rest) ↔
      accountPattern.OccursIn first ∨ accountPattern.OccursIn rest :=
  Pattern.occursIn_append_cons_iff (by decide)

/-! ## Compiling -/

namespace Configuration

theorem validate_tells (strict : Bool) (configuration : Configuration) :
    (configuration.validate strict).Tells fun line =>
      line.ShowsAccount ↔ configuration.Reveals := by
  unfold validate
  split
  · exact .bind (.ofLine configuration.occursIn_ignoredLockEvent_iff) fun _ _ => .silent rfl
  · exact .silent rfl

theorem validateCounting_tells (strict : Bool) (configuration : Configuration) :
    (configuration.validateCounting strict).Tells fun line =>
      line.ShowsAccount ↔ configuration.Reveals := by
  have told := configuration.validate_tells strict
  simp only [validateCounting]
  split
  · exact List.forall_mem_append.mpr ⟨told, List.forall_mem_nil _⟩
  · exact told

theorem compile_tells (strict traced : Bool) (configuration : Configuration) :
    (configuration.compile strict traced).Tells fun line =>
      line.ShowsAccount ↔ configuration.Reveals := by
  have told : (configuration.compileUntraced strict).Tells fun line =>
      line.ShowsAccount ↔ configuration.Reveals := by
    unfold compileUntraced
    refine .bind (configuration.validateCounting_tells strict) fun _ isAccepted => ?_
    rw [validateCounting_result, Except.mapError_eq_ok_iff, check_eq_ok_iff] at isAccepted
    refine .bind ?_ fun statements _ => ?_
    · unfold compose
      split <;> exact .silent rfl
    refine .bind (.silent rfl) fun _ _ => ?_
    refine .bind (.silent rfl) fun fingerprint isFingerprint => ?_
    rw [Outcome.ofExcept_result, Except.mapError_eq_ok_iff] at isFingerprint
    refine .bind (.silent rfl) fun _ _ => ?_
    refine .bind (.ofLine ?_) fun _ _ => .silent rfl
    exact iff_of_false (not_occursIn_compiledEvent isAccepted isFingerprint)
      (not_reveals_of_accepted isAccepted)
  exact told

end Configuration

/-! ## Provisioning -/

namespace Provisioning

/-- A refusal is told with the bucket as it is, and with what the service says redacted. -/
theorem refusalLine_tells {attempt bucket : String} {error : ClientError}
    (noColon : ':' ∉ attempt.toList) :
    ∀ line ∈ (refusalLine attempt bucket error).lines,
      line.ShowsAccount ↔ accountPattern.OccursIn bucket.toList := by
  have cut : ("Failed to " ++ attempt ++ " for bucket " ++ bucket ++ ": " ++
      redact error.message).toList =
        ("Failed to ".toList ++ attempt.toList ++ " for bucket".toList) ++
          ' ' :: (bucket.toList ++ [':'] ++ ' ' :: (redact error.message).toList) := by
    simp
  have opening : ':' ∉ "Failed to ".toList ++ attempt.toList ++ " for bucket".toList := by
    simpa using noColon
  have noPattern : ¬accountPattern.OccursIn (redact error.message).toList :=
    not_occursIn_redact (by simp [patterns]) error.message
  refine List.forall_mem_singleton.mpr ?_
  show accountPattern.OccursIn ("Failed to " ++ attempt ++ " for bucket " ++ bucket ++ ": " ++
    redact error.message).toList ↔ _
  rw [cut, occursIn_append_blank_iff, occursIn_append_blank_iff,
    or_iff_right (not_occursIn_of_no_colon opening), or_iff_left noPattern]
  exact Pattern.occursIn_concat_iff (by decide) (by decide)

theorem lockOf_tells (bucket : String) :
    (lockOf bucket).Tells fun line =>
      line.ShowsAccount ↔ accountPattern.OccursIn bucket.toList := by
  refine (Exchange.Tells.send _).mapOutcome fun outcome told => ?_
  unfold readLock
  split
  · exact told
  · split
    · exact told
    · exact List.forall_mem_append.mpr ⟨told, refusalLine_tells (by decide)⟩
  · exact told

theorem isLocked_tells (bucket : String) :
    (isLocked bucket).Tells fun line =>
      line.ShowsAccount ↔ accountPattern.OccursIn bucket.toList :=
  (lockOf_tells bucket).bind fun _ _ _ => .pure _

theorem put_tells (request : Request) :
    (put request).Tells fun line =>
      line.ShowsAccount ↔ accountPattern.OccursIn request.bucket.toList := by
  have noColon : ∀ operation : Operation, ':' ∉ operation.name.toList := by
    intro operation
    cases operation <;> decide
  refine (Exchange.Tells.send request).mapOutcome fun outcome told => ?_
  unfold countPut
  split
  · exact List.forall_mem_append.mpr ⟨told, List.forall_mem_nil _⟩
  · exact List.forall_mem_append.mpr
      ⟨List.forall_mem_append.mpr ⟨told, List.forall_mem_nil _⟩, refusalLine_tells (noColon _)⟩
  · exact told

theorem putAll_tells {bucket : String} {requests : List Request}
    (same : ∀ request ∈ requests, request.bucket = bucket) :
    (putAll requests).Tells fun line =>
      line.ShowsAccount ↔ accountPattern.OccursIn bucket.toList := by
  induction requests with
  | nil => exact .pure ()
  | cons request rest induction =>
      have others := induction fun later member => same later (.tail _ member)
      have first := put_tells request
      rw [same request (.head _)] at first
      exact first.bind fun _ _ _ => others

end Provisioning

namespace Artifact

theorem keepLock_tells (artifact : Artifact) :
    artifact.keepLock.Tells fun line =>
      line.ShowsAccount ↔ accountPattern.OccursIn artifact.bucket.toList := by
  unfold keepLock
  split
  · apply (Provisioning.isLocked_tells artifact.bucket).bind
    intro _ locked _
    split
    · exact .fail _
    · exact .pure _
  · exact .pure _

/-- What attaching an artifact logs shows an account if its bucket does. -/
theorem apply_tells (traced : Bool) (access : PublicAccess) (artifact : Artifact) :
    (artifact.apply traced access).Tells fun line =>
      line.ShowsAccount ↔ accountPattern.OccursIn artifact.bucket.toList := by
  have ending : ("Applied compiled artifact to bucket " ++ artifact.bucket).toList =
      "Applied compiled artifact to bucket".toList ++ ' ' :: artifact.bucket.toList := by
    simp
  refine Exchange.Tells.mapOutcome ?_ fun _ told => told
  apply artifact.keepLock_tells.bind
  intro _ _ _
  refine .bind (.ofOutcome (.silent rfl)) fun _ requests planned => ?_
  have planned : artifact.plan access = .ok requests := Except.mapError_eq_ok_iff.mp planned
  apply (Provisioning.putAll_tells fun request member =>
    (attaches_of_mem_plan planned member).bucket).bind
  intro _ _ _
  refine .ofOutcome (.ofLine ?_)
  show accountPattern.OccursIn ("Applied compiled artifact to bucket " ++
    artifact.bucket).toList ↔ _
  rw [ending, occursIn_append_blank_iff, or_iff_right (not_occursIn_of_no_colon (by decide))]

/-- The bucket of an artifact that was compiled is none of an account. -/
theorem apply_tells_of_compiled {strict traced : Bool} {configuration : Configuration}
    {artifact : Artifact} {fingerprint : String} (access : PublicAccess)
    (compiled : (configuration.compile strict traced).result = .ok (artifact, fingerprint)) :
    (artifact.apply traced access).Tells fun line => ¬line.ShowsAccount := by
  rcases Configuration.compile_eq_ok_iff.mp compiled with ⟨accepted, isArtifact, -⟩
  rcases Configuration.errors_eq_nil_iff.mp accepted with ⟨nameErrors, -⟩
  rcases Configuration.exists_name nameErrors with ⟨name, isName⟩
  have bucket : artifact.bucket = name := by
    rcases Option.map_eq_some_iff.mp isArtifact with ⟨statements, -, rfl⟩
    rw [Configuration.artifact, isName]
    rfl
  have noColon : ':' ∉ name.toList := fun member =>
    absurd (Configuration.name_of_accepted nameErrors isName ':' member) (by decide)
  intro client line logged shows
  have inBucket := (artifact.apply_tells traced access client line logged).mp shows
  rw [bucket] at inBucket
  exact not_occursIn_of_no_colon noColon inBucket

end Artifact

/-! ## Tracing -/

/-- The fault of a failed set-up is told as it is. -/
theorem TracingStart.lines_showsAccount_iff {endpoint : Option String} {fault : TracingFault} :
    ∀ line ∈ (TracingStart.failed endpoint fault).lines,
      line.ShowsAccount ↔ accountPattern.OccursIn fault.message.toList := by
  have cut : ("Failed to initialize tracing: " ++ fault.message).toList =
      "Failed to initialize".toList ++ ' ' :: ("tracing:".toList ++
        ' ' :: fault.message.toList) := by
    simp
  have short : ¬accountPattern.OccursIn "tracing:".toList := fun occurs =>
    absurd occurs.least_le (by decide)
  refine List.forall_mem_singleton.mpr ?_
  show accountPattern.OccursIn ("Failed to initialize tracing: " ++ fault.message).toList ↔ _
  rw [cut, occursIn_append_blank_iff, occursIn_append_blank_iff, or_iff_right short,
    or_iff_right (not_occursIn_of_no_colon (by decide))]

/-! ## Everything that is logged -/

/-- What a caller may ask for, with everything that is given to it and that it meets. -/
inductive Work where
  | validate (configuration : Configuration) (strict : Bool)
  | compile (configuration : Configuration) (strict traced : Bool)
  | apply (artifact : Artifact) (traced : Bool) (access : PublicAccess) (client : Client)
  | readLock (bucket : String) (client : Client)
  | askLocked (bucket : String) (client : Client)
  | startTracing (environment : Environment) (service : String) (exporterFault : Option String)

namespace Work

def lines : Work → List LogLine
  | validate configuration strict => (configuration.validate strict).trail.lines
  | compile configuration strict traced => (configuration.compile strict traced).trail.lines
  | apply artifact traced access client => (artifact.apply traced access client).1.trail.lines
  | readLock bucket client => (Provisioning.lockOf bucket client).1.trail.lines
  | askLocked bucket client => (Provisioning.isLocked bucket client).1.trail.lines
  | startTracing environment service exporterFault =>
      (Tracing.start environment service exporterFault).lines

/-- An account in what is given that is logged as it is, or that an escape begins. -/
def Reveals : Work → Prop
  | validate configuration _ => configuration.Reveals
  | compile configuration _ _ => configuration.Reveals
  | apply artifact _ _ _ => accountPattern.OccursIn artifact.bucket.toList
  | readLock bucket _ => accountPattern.OccursIn bucket.toList
  | askLocked bucket _ => accountPattern.OccursIn bucket.toList
  | startTracing environment service exporterFault =>
      ∃ endpoint fault, Tracing.start environment service exporterFault = .failed endpoint fault ∧
        accountPattern.OccursIn fault.message.toList

/-- A line shows an account exactly if the bucket or the fault of tracing, which are logged as they
are, does, or if an escape in the name or the environment begins one. -/
theorem showsAccount_iff_reveals {work : Work} {line : LogLine} (logged : line ∈ work.lines) :
    line.ShowsAccount ↔ work.Reveals := by
  cases work with
  | validate configuration strict => exact configuration.validate_tells strict line logged
  | compile configuration strict traced =>
      exact configuration.compile_tells strict traced line logged
  | apply artifact traced access client =>
      exact artifact.apply_tells traced access client line logged
  | readLock bucket client => exact Provisioning.lockOf_tells bucket client line logged
  | askLocked bucket client => exact Provisioning.isLocked_tells bucket client line logged
  | startTracing environment service exporterFault =>
      cases start : Tracing.start environment service exporterFault with
      | off =>
          rw [lines, start] at logged
          contradiction
      | started tracer =>
          rw [lines, start] at logged
          contradiction
      | failed endpoint fault =>
          rw [lines, start] at logged
          rw [TracingStart.lines_showsAccount_iff line logged, Reveals, start]
          simp

/-- The lock of a bucket is asked for, and the service refuses to tell it to an account. -/
def refusedRead : Work :=
  .readLock "my-data-bucket"
    { Client.fresh with
      faults := [("get_object_lock_configuration", .refusal [("Error", .obj [
        ("Code", .str "AccessDenied"),
        ("Message", .str "arn:aws:iam::123456789012:user/reader is not authorized")])])] }

theorem not_showsAccount_of_refusedRead :
    ∃ line ∈ refusedRead.lines, ¬line.ShowsAccount := by
  have noColon : ':' ∉ "my-data-bucket".toList := by decide
  have logged : ∃ line, line ∈ refusedRead.lines := ⟨_, .head _⟩
  rcases logged with ⟨line, logged⟩
  exact ⟨line, logged, fun shows =>
    not_occursIn_of_no_colon noColon ((showsAccount_iff_reveals logged).mp shows)⟩

/-- What an exporter is told that an account may not use. -/
private def refusal : String :=
  "AccessDenied: User: arn:aws:iam::123456789012:role/deployer is not authorized"

private theorem occursIn_refusal : accountPattern.OccursIn refusal.toList := by
  have found : Piece.totalLength? "arn:aws:iam::123456789012".toList accountPattern.row =
      some 25 := by decide
  exact ⟨_, by decide +kernel, (Piece.acceptsRow_of_totalLength? found).2⟩

/-- Tracing is switched on, and its exporter fails with a refusal of an account. -/
def refusedTracing : Work :=
  .startTracing [("OTEL_TRACES_ENABLED", "true")] Tracing.defaultService (some refusal)

theorem refusedTracing_shows : ¬∀ work : Work, ∀ line ∈ work.lines, ¬line.ShowsAccount := by
  intro silent
  have lines : refusedTracing.lines =
      [{ severity := .warning, text := "Failed to initialize tracing: " ++ refusal }] := by
    decide +kernel
  have hidden := silent refusedTracing
  rw [lines] at hidden
  refine hidden _ (.head _) (occursIn_refusal.mono ?_)
  rw [String.toList_append]
  exact (List.suffix_append ..).isInfix

end Work

end BucketGuard
