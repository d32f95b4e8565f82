import BucketGuard.Proofs.Compilation
import BucketGuard.Proofs.FingerprintCoverage

namespace BucketGuard

/-! Attaching an artifact goes as far along a fixed plan as the client lets it. The lock is read
first, if it is read at all; then the requests of the plan follow in order up to the first one that
fails. What is counted and logged tells how far it went. -/

/-! ## What a failure leaves behind -/

namespace Client

/-- The failure that an operation meets, if it meets one. -/
def failure? (client : Client) (operation : Operation) : Option Failure :=
  (Members.get? client.faults operation.name).map fun fault => fault.failure operation

theorem failure?_congr {left right : Client} (faults : left.faults = right.faults)
    (operation : Operation) : left.failure? operation = right.failure? operation := by
  rw [failure?, failure?, faults]

/-- A request to put a setting is answered if its operation meets no failure. -/
theorem answer_of_put (client : Client) {request : Request}
    (puts : request.operation ≠ .getObjectLock) :
    (client.answer request).1 =
      match client.failure? request.operation with
      | none => .ok (.obj [])
      | some failure => .error failure := by
  rw [answer, failure?]
  cases Members.get? client.faults request.operation.name with
  | some fault => rfl
  | none =>
      change (client.reply request).1 = .ok (.obj [])
      unfold reply
      split
      next isRead => exact absurd isRead puts
      next => rfl
      next => rfl

end Client

namespace Provisioning

/-- A refusal is logged, and any other failure is passed on without a word. -/
def linesOf (attempt bucket : String) : Failure → List LogLine
  | .refused error => (refusalLine attempt bucket error).lines
  | _ => []

/-- A refusal is counted, and no other failure is. -/
def countsOf (operation : Operation) : Failure → List Count
  | .refused _ => [.applied operation false]
  | _ => []

/-! ## Carrying out a plan -/

/-- What requests leave behind that were all answered. -/
def answeredTrail (requests : List Request) : Trail :=
  { Trail.empty with
    requests
    counts := requests.map fun request => .applied request.operation true }

/-- What a request leaves behind that failed. -/
def failedTrail (request : Request) (failure : Failure) : Trail :=
  { Trail.empty with
    requests := [request]
    counts := countsOf request.operation failure
    lines := linesOf request.operation.name request.bucket failure }

/-- A plan is carried out to its end, or up to the first request that fails. -/
inductive Carried (client : Client) : List Request → Outcome Unit → Prop
  | finished {plan : List Request}
      (answers : ∀ request ∈ plan, client.failure? request.operation = none) :
      Carried client plan { result := .ok (), trail := answeredTrail plan }
  | stopped (front later : List Request) {request : Request} {failure : Failure}
      (answers : ∀ earlier ∈ front, client.failure? earlier.operation = none)
      (fails : client.failure? request.operation = some failure) :
      Carried client (front ++ request :: later)
        { result := .error failure, trail := answeredTrail front ++ failedTrail request failure }

/-- One more request that is answered comes before what was carried out. -/
theorem Carried.cons {client : Client} {request : Request} {rest : List Request}
    {outcome : Outcome Unit} (carried : Carried client rest outcome)
    (answers : client.failure? request.operation = none) :
    Carried client (request :: rest)
      { result := outcome.result, trail := answeredTrail [request] ++ outcome.trail } := by
  cases carried with
  | finished others => exact .finished (List.forall_mem_cons.mpr ⟨answers, others⟩)
  | stopped front later others fails =>
      exact .stopped (request :: front) later (List.forall_mem_cons.mpr ⟨answers, others⟩) fails

theorem Carried.congr {left right : Client} {plan : List Request} {outcome : Outcome Unit}
    (carried : Carried left plan outcome) (faults : left.faults = right.faults) :
    Carried right plan outcome := by
  have same := Client.failure?_congr faults
  cases carried with
  | finished answers => exact .finished fun request member => same _ ▸ answers request member
  | stopped front later answers fails =>
      exact .stopped front later (fun earlier member => same _ ▸ answers earlier member)
        (same _ ▸ fails)

theorem put_of_answered {client : Client} {request : Request}
    (puts : request.operation ≠ .getObjectLock)
    (answers : client.failure? request.operation = none) :
    put request client =
      ({ result := .ok (), trail := answeredTrail [request] }, client.after request) := by
  have answered := client.answer_of_put puts
  rw [answers] at answered
  simp only [put, Exchange.mapOutcome, Exchange.send, countPut, answered]
  rfl

theorem put_of_failed {client : Client} {request : Request} {failure : Failure}
    (puts : request.operation ≠ .getObjectLock)
    (fails : client.failure? request.operation = some failure) :
    (put request client).1 =
      { result := .error failure, trail := failedTrail request failure } := by
  have answered := client.answer_of_put puts
  rw [fails] at answered
  simp only [put, Exchange.mapOutcome, Exchange.send, countPut, answered]
  cases failure <;> rfl

/-- No request changes the failures that the later ones meet. -/
theorem putAll_carried {plan : List Request}
    (puts : ∀ request ∈ plan, request.operation ≠ .getObjectLock) (client : Client) :
    Carried client plan (putAll plan client).1 := by
  induction plan generalizing client with
  | nil => exact .finished (List.forall_mem_nil _)
  | cons request rest induction =>
      rcases List.forall_mem_cons.mp puts with ⟨putsFirst, putsRest⟩
      rw [putAll]
      cases met : client.failure? request.operation with
      | none =>
          have first := put_of_answered putsFirst met
          have carried := (induction putsRest (client.after request)).congr
            (Client.after_faults client request)
          rw [Exchange.bind_of_ok _ (by rw [first]), first]
          exact carried.cons met
      | some failure =>
          have first := put_of_failed putsFirst met
          rw [Exchange.bind_of_error _ (by rw [first]), first]
          exact .stopped [] rest (List.forall_mem_nil _) met

/-! ## Reading the lock first -/

/-- What reading a lock leaves behind: a question, and a line if the answer was a failure. -/
def askedTrail (bucket : String) (result : Except Failure α) : Trail :=
  { Trail.empty with
    requests := [lockRequest bucket]
    lines := match result with
      | .ok _ => []
      | .error failure => linesOf "get object lock configuration" bucket failure }

theorem lockOf_trail (bucket : String) (client : Client) :
    (lockOf bucket client).1.trail = askedTrail bucket (lockOf bucket client).1.result := by
  rw [lockOf_apply]
  cases (client.answer (lockRequest bucket)).1 with
  | ok response =>
      simp only [readLock]
      cases ObjectLock.ofResponse response <;> rfl
  | error failure =>
      cases failure with
      | refused error =>
          by_cases isNoLock : error.code = .str Client.noLockCode
          · simp only [readLock, isNoLock, if_true]
            rfl
          · simp only [readLock, isNoLock, if_false]
            rfl
      | _ => rfl

/-- Asking whether a bucket is locked leaves the client as it is. -/
theorem isLocked_eq (bucket : String) (client : Client) :
    isLocked bucket client =
      ({ result := (lockOf bucket client).1.result.map Option.isSome
         trail := askedTrail bucket (lockOf bucket client).1.result }, client) := by
  have same : client.after (lockRequest bucket) = client :=
    Client.after_of_ne_putObjectLock nofun
  have unchanged : (lockOf bucket client).2 = client := same
  rw [isLocked, ← lockOf_trail]
  cases read : (lockOf bucket client).1.result with
  | error failure =>
      rw [Exchange.bind_of_error _ read, unchanged]
      rfl
  | ok lock =>
      rw [Exchange.bind_of_ok _ read, unchanged, lockOf_trail, read]
      rfl

end Provisioning

/-! ## Attaching an artifact -/

namespace Artifact

open Provisioning

/-- The operations of the plan: four of them always, and one for each part that the artifact has. -/
def puts (artifact : Artifact) : List Operation :=
  [.putPublicAccessBlock, .putVersioning, .putEncryption, .putPolicy] ++
    (if artifact.lifecycleRules = [] then [] else [.putLifecycle]) ++
    (if artifact.lock = none then [] else [.putObjectLock]) ++
    (if artifact.loggingBucket.isGiven then [.putLogging] else []) ++
    (if artifact.corsRules = [] then [] else [.putCors])

theorem operations_planned (access : PublicAccess) (policy : String) (artifact : Artifact) :
    (artifact.planned access policy).map Request.operation = artifact.puts := by
  simp only [planned, puts, lifecycleJson?, lockJson?, loggingStatus?, loggingJson?, corsJson?]
  cases artifact.lifecycleRules <;> cases artifact.lock <;>
    cases artifact.loggingBucket.isGiven <;> cases artifact.corsRules <;> rfl

theorem operations_of_plan {access : PublicAccess} {artifact : Artifact} {plan : List Request}
    (isPlan : artifact.plan access = .ok plan) : plan.map Request.operation = artifact.puts := by
  rw [plan_eq, Except.map_eq_ok_iff] at isPlan
  rcases isPlan with ⟨policy, -, rfl⟩
  exact operations_planned access policy artifact

theorem not_getObjectLock_of_mem_plan {access : PublicAccess} {artifact : Artifact}
    {plan : List Request} (isPlan : artifact.plan access = .ok plan) {request : Request}
    (member : request ∈ plan) : request.operation ≠ .getObjectLock := by
  intro reads
  have isPut : Operation.getObjectLock ∈ artifact.puts := by
    rw [← operations_of_plan isPlan, ← reads]
    exact List.mem_map_of_mem member
  simp [puts] at isPut

/-- The requests that come before the plan. -/
def asked (artifact : Artifact) : List Request :=
  if artifact.lock = none then [lockRequest artifact.bucket] else []

/-- What keeping the lock leaves behind. -/
def keptTrail (artifact : Artifact) (result : Except Failure Unit) : Trail :=
  { askedTrail artifact.bucket result with requests := artifact.asked }

theorem keepLock_eq_of_result (artifact : Artifact) (client : Client) :
    artifact.keepLock client =
      ({ result := (artifact.keepLock client).1.result
         trail := artifact.keptTrail (artifact.keepLock client).1.result }, client) := by
  cases hasLock : artifact.lock with
  | some lock =>
      have isSome : artifact.lock.isSome := Option.isSome_of_eq_some hasLock
      rw [keepLock_of_some isSome, keptTrail, asked, if_neg (Option.isSome_iff_ne_none.mp isSome)]
      rfl
  | none =>
      rw [keepLock_of_none hasLock, keptTrail, asked, if_pos hasLock]
      have isLocked := isLocked_eq artifact.bucket client
      cases read : (lockOf artifact.bucket client).1.result with
      | error failure =>
          rw [read] at isLocked
          rw [Exchange.bind_of_error _ (by rw [isLocked]; rfl), isLocked]
          rfl
      | ok lock =>
          rw [read] at isLocked
          rw [Exchange.bind_of_ok _ (by rw [isLocked]; rfl), isLocked]
          cases lock <;> rfl

end Artifact

/-- The result, and all of the trail but the spans. -/
structure Outcome.Leaves (outcome : Outcome Unit) (result : Except Failure Unit)
    (requests : List Request) (counts : List Count) (lines : List LogLine) : Prop where
  result : outcome.result = result
  requests : outcome.trail.requests = requests
  counts : outcome.trail.counts = counts
  lines : outcome.trail.lines = lines

namespace Artifact

open Provisioning

/-- How attaching ends: the lock is not kept, a request of the plan fails, or all are answered. -/
inductive Attached (client : Client) (artifact : Artifact) (outcome : Outcome Unit) :
    List Request → Prop
  | held {plan : List Request} {failure : Failure}
      (fails : (artifact.keepLock client).1.result = .error failure)
      (leaves : outcome.Leaves (.error failure) artifact.asked []
        (linesOf "get object lock configuration" artifact.bucket failure)) :
      Attached client artifact outcome plan
  | stopped {front later : List Request} {request : Request} {failure : Failure}
      (kept : (artifact.keepLock client).1.result = .ok ())
      (answers : ∀ earlier ∈ front, client.failure? earlier.operation = none)
      (fails : client.failure? request.operation = some failure)
      (leaves : outcome.Leaves (.error failure) (artifact.asked ++ front ++ [request])
        (front.map (fun earlier => .applied earlier.operation true) ++
          countsOf request.operation failure)
        (linesOf request.operation.name artifact.bucket failure)) :
      Attached client artifact outcome (front ++ request :: later)
  | finished {plan : List Request}
      (kept : (artifact.keepLock client).1.result = .ok ())
      (answers : ∀ request ∈ plan, client.failure? request.operation = none)
      (leaves : outcome.Leaves (.ok ()) (artifact.asked ++ plan)
        (plan.map fun request => .applied request.operation true)
        [{ severity := .info
           text := s!"Applied compiled artifact to bucket {artifact.bucket}" }]) :
      Attached client artifact outcome plan

/-- A span adds nothing but itself. -/
theorem Attached.asSpan {client : Client} {artifact : Artifact} {outcome : Outcome Unit}
    {plan : List Request} (attached : artifact.Attached client outcome plan) (traced : Bool)
    (name : String) (attributes : List (String × Json)) :
    artifact.Attached client (outcome.asSpan traced name attributes) plan := by
  cases attached with
  | held fails leaves => exact .held fails ⟨leaves.1, leaves.2, leaves.3, leaves.4⟩
  | stopped kept answers fails leaves =>
      exact .stopped kept answers fails ⟨leaves.1, leaves.2, leaves.3, leaves.4⟩
  | finished kept answers leaves =>
      exact .finished kept answers ⟨leaves.1, leaves.2, leaves.3, leaves.4⟩

/-- Once the plan is made, attaching the artifact is keeping the lock and carrying out the plan. -/
theorem attached_of_plan {access : PublicAccess} {artifact : Artifact} {plan : List Request}
    (isPlan : artifact.plan access = .ok plan) (traced : Bool) (client : Client) :
    artifact.Attached client (artifact.apply traced access client).1 plan := by
  suffices attached : artifact.Attached client (artifact.attach access client).1 plan from
    attached.asSpan ..
  rw [attach_of_plan isPlan]
  have isKept := artifact.keepLock_eq_of_result client
  have carried := putAll_carried (fun _ => not_getObjectLock_of_mem_plan isPlan) client
  have buckets : ∀ request ∈ plan, request.bucket = artifact.bucket :=
    fun _ member => (attaches_of_mem_plan isPlan member).bucket
  cases kept : (artifact.keepLock client).1.result with
  | error failure =>
      rw [Exchange.bind_of_error _ kept, isKept, kept]
      exact .held kept ⟨rfl, rfl, rfl, rfl⟩
  | ok _ =>
      rw [Exchange.bind_of_ok _ kept, isKept, kept, Exchange.bind_ofOutcome]
      generalize (putAll plan client).1 = outcome at carried
      cases carried with
      | finished answers =>
          rw [Outcome.bind_of_ok _ rfl]
          refine .finished kept answers ⟨rfl, ?_, ?_, rfl⟩
          · exact congrArg (artifact.asked ++ ·) (List.append_nil plan)
          · exact List.append_nil _
      | stopped front later answers fails =>
          rw [Outcome.bind_of_error _ rfl]
          refine .stopped kept answers fails ⟨rfl, ?_, rfl, ?_⟩
          · exact (List.append_assoc ..).symm
          · rw [← buckets _ (List.mem_append_right _ (.head _))]
            rfl

private def photos : Configuration :=
  { name := .str "photos", environment := .str "prod"
    encryptionKey := .str
      "arn:aws:kms:us-east-1:123456789012:key/12345678-1234-1234-1234-123456789012"
    loggingBucket := .str "logs", loggingPrefix := .null, lockEnabled := .bool false, lock := none
    trustedPrincipals := [], trustedActions := none, lifecycleRules := [], statements := []
    corsRules := [], tags := [] }

private def refusingPolicies : Client :=
  Client.fresh.withFault "put_bucket_policy" (.refusal [])

end Artifact

end BucketGuard
