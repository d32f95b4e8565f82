import BucketGuard.Proofs.Compilation
import BucketGuard.Proofs.Provisioning

namespace BucketGuard

/-! Object lock is never turned off. As long as nobody edits the locks that the service keeps, they
are those that provisioning put last, whatever faults came in between, so a bucket that has a lock
keeps one. -/

/-! ## Locks as the service tells them -/

namespace ObjectLock

/-- The answer that tells of a lock once it is put. -/
def response (lock : ObjectLock) : Json := .obj [("ObjectLockConfiguration", lock.json)]

/-- The answer tells of an enabled lock. -/
def isReported (response : Json) : Bool :=
  Json.field (Json.field response.members "ObjectLockConfiguration").members "ObjectLockEnabled" =
    .str "Enabled"

@[simp] theorem isReported_response (lock : ObjectLock) : isReported lock.response := by
  simp [isReported, response, json, Json.members, Json.field, Members.get?]

/-- A lock is read back as it was put. -/
@[simp] theorem ofResponse_response (lock : ObjectLock) :
    ofResponse lock.response = .ok (some lock) := by
  simp [ofResponse, response, json, Json.asObject, Json.objectField, Json.field, Members.get?,
    bind, Except.bind, pure, Except.pure]

def put (bucket : String) (lock : ObjectLock) : Request :=
  { operation := .putObjectLock, bucket, setting := some lock.json }

end ObjectLock

namespace Client

/-- The client answers that the bucket has an enabled lock. -/
def ReportsLock (client : Client) (bucket : String) : Prop :=
  ∃ response, Members.get? client.locks bucket = some response ∧ ObjectLock.isReported response

end Client

/-- The last request that put a lock on the bucket. -/
def lastLock? (bucket : String) (requests : List Request) : Option Request :=
  (requests.filter fun request =>
    request.operation = .putObjectLock ∧ request.bucket = bucket).getLast?

theorem lastLock?_append (bucket : String) (earlier later : List Request) :
    lastLock? bucket (earlier ++ later) =
      (lastLock? bucket later).or (lastLock? bucket earlier) := by
  rw [lastLock?, List.filter_append, List.getLast?_append]
  rfl

theorem lastLock?_singleton (bucket : String) (request : Request) :
    lastLock? bucket [request] =
      if request.operation = .putObjectLock ∧ request.bucket = bucket then some request
      else none := by
  by_cases puts : request.operation = .putObjectLock ∧ request.bucket = bucket <;>
    simp [lastLock?, puts]

/-! ## What a request records -/

namespace Client

/-- The client answers the locks that were put last, and no others. -/
def Records (client : Client) (granted : List Request) : Prop :=
  ∀ bucket, ∃ lock? : Option ObjectLock,
    lastLock? bucket granted = lock?.map (ObjectLock.put bucket) ∧
      Members.get? client.locks bucket = lock?.map ObjectLock.response

theorem records_fresh : fresh.Records [] := fun _ => ⟨none, rfl, rfl⟩

/-- The request puts the rendering of a lock, if it puts one at all. -/
def PutsLock (request : Request) : Prop :=
  request.operation = .putObjectLock → ∃ lock : ObjectLock, request.setting = some lock.json

def granted (client : Client) (requests : List Request) : List Request :=
  requests.filter fun request => client.Grants request.operation

theorem granted_congr {left right : Client} (equal : left.faults = right.faults)
    (requests : List Request) : left.granted requests = right.granted requests :=
  List.filter_congr fun request _ => decide_eq_decide.mpr (by rw [Grants, Grants, equal])

theorem granted_cons (client : Client) (request : Request) (rest : List Request) :
    client.granted (request :: rest) = client.granted [request] ++ client.granted rest := by
  rw [granted, granted, granted, ← List.filter_append, List.singleton_append]

/-- A request that meets no fault is recorded, and any other one changes nothing. -/
theorem Records.after {client : Client} {granted : List Request} (records : client.Records granted)
    {request : Request} (putsLock : PutsLock request) :
    (client.after request).Records (granted ++ client.granted [request]) := by
  by_cases grants : client.Grants request.operation
  case neg =>
    have none : client.granted [request] = [] := by simp [Client.granted, grants]
    rw [none, List.append_nil, after_of_not_grants grants]
    exact records
  have single : client.granted [request] = [request] := by simp [Client.granted, grants]
  rw [single]
  intro bucket
  rw [lastLock?_append, lastLock?_singleton]
  by_cases puts : request.operation = .putObjectLock ∧ request.bucket = bucket
  · rcases puts with ⟨isPut, rfl⟩
    rcases putsLock isPut with ⟨lock, setting⟩
    -- The setting is all that a request to put a lock has besides its bucket.
    have isRequest : request = ObjectLock.put request.bucket lock := by
      cases request
      simp_all [ObjectLock.put]
    refine ⟨some lock, ?_, ?_⟩
    · rw [if_pos ⟨isPut, rfl⟩, Option.map_some, ← isRequest]
      rfl
    · rw [after_putObjectLock grants isPut, withLock, Members.get?_put, if_pos rfl,
        Option.map_some, isRequest]
      rfl
  · rw [if_neg puts, Option.none_or]
    rcases records bucket with ⟨lock?, last, answered⟩
    refine ⟨lock?, last, ?_⟩
    rw [← answered]
    by_cases isPut : request.operation = .putObjectLock
    · exact get?_locks_after fun same => puts ⟨isPut, same⟩
    · rw [after_of_ne_putObjectLock isPut]

theorem Records.foldl_after {client : Client} {granted requests : List Request}
    (records : client.Records granted) (putLocks : ∀ request ∈ requests, PutsLock request) :
    (requests.foldl Client.after client).Records (granted ++ client.granted requests) := by
  induction requests generalizing client granted with
  | nil =>
      have none : client.granted [] = [] := rfl
      rw [none, List.append_nil]
      exact records
  | cons request rest induction =>
      have recorded := records.after (putLocks request (List.mem_cons_self ..))
      have others := induction recorded fun later member => putLocks later (.tail _ member)
      -- No request changes the faults, so those that the rest meets are the client's own.
      rw [granted_congr (after_faults client request), List.append_assoc, ← granted_cons] at others
      exact others

end Client

/-! ## What a run records -/

namespace Session

/-- The step compiles, provisions, reads or sets up a fault. It edits no lock itself. -/
def Step.isHonest : Step → Bool
  | .setLock .. | .forgetLock _ => false
  | _ => true

/-- The requests of a run that met no fault. -/
def granted (client : Client) : List Step → List Request
  | [] => []
  | step :: rest =>
      client.granted (step.run client).1.trail.requests ++ granted (step.run client).2 rest

private theorem putsLock_lockRequest (bucket : String) :
    Client.PutsLock (Provisioning.lockRequest bucket) := fun puts => nomatch puts

/-- Compiling, provisioning and reading are exchanges, and put no lock but the artifact's. -/
private theorem faithful_or_quiet {step : Step} (honest : step.isHonest) :
    step.run.Faithful Client.PutsLock ∨
      ∀ client, (step.run client).1.trail.requests = [] ∧
        (step.run client).2.locks = client.locks := by
  cases step with
  | compile specification strict traced =>
      left
      apply (Exchange.Faithful.ofOutcome (compile_requests ..)).bind
      intro _ _ _
      exact .pure _
  | apply specification strict traced access =>
      left
      apply (Exchange.Faithful.ofOutcome (compile_requests ..)).bind
      intro _ compiled _
      refine Exchange.Faithful.bind ?_ fun _ _ _ => .pure _
      apply (Artifact.apply_faithful traced access compiled.1).weaken
      intro request attaches puts
      rcases attaches.lock puts with ⟨lock, -, setting⟩
      exact ⟨lock, setting⟩
  | readLock bucket =>
      left
      apply (Provisioning.lockOf_faithful (putsLock_lockRequest bucket)).bind
      intro _ _ _
      exact .pure _
  | askLocked bucket =>
      left
      apply (Provisioning.isLocked_faithful (putsLock_lockRequest bucket)).bind
      intro _ _ _
      exact .pure _
  | setLock bucket response => contradiction
  | forgetLock bucket => contradiction
  | fail operation fault => exact .inr fun client => ⟨rfl, rfl⟩
  | mend operation => exact .inr fun client => ⟨rfl, rfl⟩

theorem records_step {client : Client} {requests : List Request}
    (records : client.Records requests) {step : Step} (honest : step.isHonest) :
    (step.run client).2.Records
      (requests ++ client.granted (step.run client).1.trail.requests) := by
  rcases faithful_or_quiet honest with faithful | quiet
  · rw [faithful.leaves client]
    exact records.foldl_after (faithful.sends client)
  · -- A fault that is set up or taken back leaves the locks and sends nothing.
    rcases quiet client with ⟨silent, same⟩
    have nothing : client.granted [] = [] := rfl
    rw [silent, nothing, List.append_nil]
    intro bucket
    rw [same]
    exact records bucket

theorem records_run {client : Client} {requests : List Request}
    (records : client.Records requests) {steps : List Step}
    (honest : ∀ step ∈ steps, step.isHonest) :
    (clientAfter client steps).Records (requests ++ granted client steps) := by
  induction steps generalizing client requests with
  | nil =>
      rw [granted, List.append_nil]
      exact records
  | cons step rest induction =>
      have stepped := records_step records (honest step (List.mem_cons_self ..))
      rw [granted, ← List.append_assoc]
      exact induction stepped fun later member => honest later (.tail _ member)

end Session

/-! ## What follows from the records -/

namespace Client

/-- Reading a lock meets a fault that tells that there is none. -/
def DeniesLocks (client : Client) : Prop :=
  ∃ fault error, Members.get? client.faults Operation.getObjectLock.name = some fault ∧
    fault.failure .getObjectLock = .refused error ∧ error.code = .str noLockCode

theorem Records.reportsLock_iff {client : Client} {requests : List Request}
    (records : client.Records requests) (bucket : String) :
    client.ReportsLock bucket ↔ (lastLock? bucket requests).isSome := by
  rcases records bucket with ⟨lock?, last, answered⟩
  rw [last, ReportsLock, answered]
  cases lock? with
  | none => simp
  | some lock => simp

theorem Records.lockOf_result {client : Client} {requests : List Request}
    (records : client.Records requests) (grants : client.Grants .getObjectLock)
    (bucket : String) :
    ∃ lock? : Option ObjectLock, lastLock? bucket requests = lock?.map (ObjectLock.put bucket) ∧
      (Provisioning.lockOf bucket client).1.result = .ok lock? := by
  rcases records bucket with ⟨lock?, last, answered⟩
  refine ⟨lock?, last, ?_⟩
  have asked : client.answer (Provisioning.lockRequest bucket) =
      client.reply (Provisioning.lockRequest bucket) := answer_of_grants grants
  cases lock? with
  | none =>
      have reply : (client.reply (Provisioning.lockRequest bucket)).1 =
          .error (.refused noLock) := by
        simp only [reply, Provisioning.lockRequest, answered, Option.map_none]
      exact Provisioning.lockOf_of_noLock (by rw [asked, reply]) rfl
  | some lock =>
      have reply : (client.reply (Provisioning.lockRequest bucket)).1 = .ok lock.response := by
        simp only [reply, Provisioning.lockRequest, answered, Option.map_some]
      have read := Provisioning.lockOf_of_ok ((congrArg Prod.fst asked).trans reply)
      rw [read, ObjectLock.ofResponse_response]
      rfl

/-- A fault that tells nothing of locks is passed on to who reads one. -/
theorem lockOf_result_of_fault {client : Client} {fault : Fault}
    (met : Members.get? client.faults Operation.getObjectLock.name = some fault)
    (admits : ¬client.DeniesLocks) (bucket : String) :
    (Provisioning.lockOf bucket client).1.result =
      .error (fault.failure .getObjectLock) := by
  have asked : client.answer (Provisioning.lockRequest bucket) =
      (.error (fault.failure .getObjectLock), client) := answer_of_fault met
  apply Provisioning.lockOf_of_error
  · rw [asked]
  · intro error refused noLock
    exact admits ⟨fault, error, met, refused, noLock⟩

/-- An artifact without a lock goes no further than to a bucket's lock. -/
theorem Records.apply_refused {client : Client} {requests : List Request}
    (records : client.Records requests) {artifact : Artifact} (noLock : artifact.lock = none)
    (reported : client.ReportsLock artifact.bucket) (admits : ¬client.DeniesLocks)
    (traced : Bool) (access : PublicAccess) :
    (∃ failure, (artifact.apply traced access client).1.result = .error failure ∧
        (client.Grants .getObjectLock → failure = .lockHeld artifact.bucket)) ∧
      (artifact.apply traced access client).1.trail.requests =
        [Provisioning.lockRequest artifact.bucket] := by
  have held : ∃ failure, (artifact.keepLock client).1.result = .error failure ∧
      (client.Grants .getObjectLock → failure = .lockHeld artifact.bucket) := by
    rw [Artifact.keepLock_result noLock]
    by_cases grants : client.Grants .getObjectLock
    · rcases records.lockOf_result grants artifact.bucket with ⟨lock?, last, read⟩
      have isSome := (records.reportsLock_iff artifact.bucket).mp reported
      rw [last, Option.isSome_map] at isSome
      refine ⟨.lockHeld artifact.bucket, ?_, fun _ => rfl⟩
      rw [read]
      exact if_pos isSome
    · rcases Option.ne_none_iff_exists'.mp grants with ⟨fault, met⟩
      rw [lockOf_result_of_fault met admits]
      exact ⟨_, rfl, fun granted => absurd granted grants⟩
  rcases held with ⟨failure, failed, isHeld⟩
  have applied := Artifact.apply_of_keepLock_error failed traced access
  exact ⟨⟨failure, applied.1, isHeld⟩, applied.2.trans (Artifact.keepLock_requests noLock client)⟩

end Client

namespace Artifact

/-- Whatever becomes of it, attaching an artifact leaves the locks of other buckets alone. -/
theorem apply_locks_of_ne (traced : Bool) (access : PublicAccess) (artifact : Artifact)
    (client : Client) {other : String} (different : other ≠ artifact.bucket) :
    Members.get? (artifact.apply traced access client).2.locks other =
      Members.get? client.locks other := by
  have faithful := artifact.apply_faithful traced access
  rw [faithful.leaves client]
  apply Client.get?_locks_foldl_after
  intro request member same
  exact different (same.symm.trans (faithful.sends client request member).bucket)

end Artifact

namespace Session

/-- In every run that edits no lock itself: a lock that is reported stays reported; reading, where
it meets no fault, tells the lock that was put last; an artifact without a lock is refused where
one is reported, with nothing put, unless a fault tells that there is none; and attaching an
artifact leaves the locks of other buckets alone. -/
theorem locks_retained (earlier later : List Step)
    (honest : ∀ step ∈ earlier ++ later, step.isHonest) :
    let client := clientAfter .fresh earlier
    (∀ bucket, client.ReportsLock bucket → (clientAfter client later).ReportsLock bucket) ∧
    (∀ bucket, client.Grants .getObjectLock →
      ∃ lock? : Option ObjectLock,
        lastLock? bucket (granted .fresh earlier) = lock?.map (ObjectLock.put bucket) ∧
          ((Step.readLock bucket).run client).1.result = .ok (.lock lock?)) ∧
    (∀ (artifact : Artifact) (traced : Bool) (access : PublicAccess),
      artifact.lock = none → client.ReportsLock artifact.bucket → ¬client.DeniesLocks →
        (∃ failure, (artifact.apply traced access client).1.result = .error failure ∧
            (client.Grants .getObjectLock → failure = .lockHeld artifact.bucket)) ∧
          (artifact.apply traced access client).1.trail.requests =
            [Provisioning.lockRequest artifact.bucket]) ∧
    (∀ (artifact : Artifact) (traced : Bool) (access : PublicAccess) (other : String),
      other ≠ artifact.bucket →
        Members.get? (artifact.apply traced access client).2.locks other =
          Members.get? client.locks other) := by
  intro client
  have records : client.Records (granted .fresh earlier) :=
    records_run Client.records_fresh fun step member => honest step (List.mem_append_left _ member)
  have recordsLater : (clientAfter client later).Records
      (granted .fresh earlier ++ granted client later) :=
    records_run records fun step member => honest step (List.mem_append_right _ member)
  refine ⟨?_, ?_, ?_, ?_⟩
  · intro bucket reported
    rw [records.reportsLock_iff] at reported
    rw [recordsLater.reportsLock_iff, lastLock?_append, Option.isSome_or, reported, Bool.or_true]
  · intro bucket grants
    rcases records.lockOf_result grants bucket with ⟨lock?, last, read⟩
    refine ⟨lock?, last, ?_⟩
    rw [Step.run, Exchange.bind_result, read]
    rfl
  · intro artifact traced access noLock reported admits
    exact records.apply_refused noLock reported admits traced access
  · intro artifact traced access other different
    exact artifact.apply_locks_of_ne traced access client different

private def ledger (lock : List (String × Json)) : List (String × Json) :=
  [("name", .str "ledger"), ("environment", .str "prod"),
    ("encryption", .obj [("kmsKeyId",
      .str "arn:aws:kms:us-east-1:123456789012:key/12345678-1234-1234-1234-123456789012")]),
    ("objectLock", .obj lock)]

private def attachLocked : Step :=
  .apply (ledger [("enabled", .bool true), ("mode", .str "COMPLIANCE"), ("retentionDays", .int 30)])
    true false {}

theorem locks_retained_on_ledger :
    (∀ step ∈ [attachLocked] ++ [.fail "put_bucket_cors" (.breakage "down"),
        .apply (ledger []) false true {}], step.isHonest) ∧
      (clientAfter .fresh [attachLocked]).ReportsLock "ledger" ∧
      (clientAfter (clientAfter .fresh [attachLocked])
        [.fail "put_bucket_cors" (.breakage "down"), .apply (ledger []) false true {}]).ReportsLock
        "ledger" := by
  have honest : ∀ step ∈ [attachLocked] ++ [.fail "put_bucket_cors" (.breakage "down"),
      .apply (ledger []) false true {}], step.isHonest := by decide
  have lock : Members.get? (clientAfter .fresh [attachLocked]).locks "ledger" =
      some (ObjectLock.response ⟨.str "COMPLIANCE", .int 30⟩) := by decide +kernel
  have reported : (clientAfter .fresh [attachLocked]).ReportsLock "ledger" :=
    ⟨_, lock, ObjectLock.isReported_response _⟩
  exact ⟨honest, reported, (locks_retained _ _ honest).1 "ledger" reported⟩

end Session

end BucketGuard
