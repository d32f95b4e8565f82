import BucketGuard.Proofs.Exchange

namespace BucketGuard

/-! What each part of provisioning asks of the service, and what it makes of the answers. -/

namespace Provisioning

/-- The request that reads the lock of a bucket. -/
def lockRequest (bucket : String) : Request :=
  { operation := .getObjectLock, bucket, setting := none }

/-! ## Reading the lock -/

@[simp] theorem readLock_requests (outcome : Outcome Json) (bucket : String) :
    (readLock outcome bucket).trail.requests = outcome.trail.requests := by
  unfold readLock
  split
  · rfl
  · split
    · rfl
    · rw [Trail.requests_append, refusalLine, Trail.requests_ofLine, List.append_nil]
  · rfl

theorem lockOf_apply (bucket : String) (client : Client) :
    lockOf bucket client =
      (readLock { result := (client.answer (lockRequest bucket)).1
                  trail := .ofRequest (lockRequest bucket) } bucket,
        client.after (lockRequest bucket)) := rfl

theorem lockOf_of_ok {bucket : String} {client : Client} {response : Json}
    (answered : (client.answer (lockRequest bucket)).1 = .ok response) :
    (lockOf bucket client).1.result =
      (ObjectLock.ofResponse response).mapError .responseForm := by
  simp only [lockOf_apply, readLock, answered]

theorem lockOf_of_noLock {bucket : String} {client : Client} {error : ClientError}
    (refused : (client.answer (lockRequest bucket)).1 = .error (.refused error))
    (isNoLock : error.code = .str Client.noLockCode) :
    (lockOf bucket client).1.result = .ok none := by
  simp only [lockOf_apply, readLock, refused, isNoLock, if_true]

/-- A failure that does not tell of a missing lock is passed on. -/
theorem lockOf_of_error {bucket : String} {client : Client} {failure : Failure}
    (failed : (client.answer (lockRequest bucket)).1 = .error failure)
    (other : ∀ error, failure = .refused error → error.code ≠ .str Client.noLockCode) :
    (lockOf bucket client).1.result = .error failure := by
  cases failure with
  | refused error => simp only [lockOf_apply, readLock, failed, other error rfl, if_false]
  | _ => simp only [lockOf_apply, readLock, failed]

@[simp] theorem lockOf_requests (bucket : String) (client : Client) :
    (lockOf bucket client).1.trail.requests = [lockRequest bucket] := by
  rw [lockOf_apply, readLock_requests, Trail.requests_ofRequest]

theorem lockOf_faithful {allowed : Request → Prop} {bucket : String}
    (isAllowed : allowed (lockRequest bucket)) : (lockOf bucket).Faithful allowed :=
  (Exchange.Faithful.send isAllowed).mapOutcome fun outcome => readLock_requests outcome bucket

theorem isLocked_faithful {allowed : Request → Prop} {bucket : String}
    (isAllowed : allowed (lockRequest bucket)) : (isLocked bucket).Faithful allowed :=
  (lockOf_faithful isAllowed).bind fun _ _ _ => .pure _

theorem isLocked_result (bucket : String) (client : Client) :
    (isLocked bucket client).1.result = (lockOf bucket client).1.result.map Option.isSome := by
  rw [isLocked, Exchange.bind_result]
  cases (lockOf bucket client).1.result <;> rfl

theorem isLocked_requests (bucket : String) (client : Client) :
    (isLocked bucket client).1.trail.requests = [lockRequest bucket] := by
  rw [isLocked, Exchange.bind_requests_of_silent fun _ _ => rfl, lockOf_requests]

/-! ## Putting settings -/

@[simp] theorem countPut_result (request : Request) (outcome : Outcome Json) :
    (countPut request outcome).result = outcome.result.map fun _ => () := by
  unfold countPut
  split <;> rename_i result <;> rw [result] <;> rfl

@[simp] theorem countPut_requests (request : Request) (outcome : Outcome Json) :
    (countPut request outcome).trail.requests = outcome.trail.requests := by
  unfold countPut
  split
  · rw [Trail.requests_append, Trail.requests_ofCounts, List.append_nil]
  · rw [Trail.requests_append, Trail.requests_append, Trail.requests_ofCounts, refusalLine,
      Trail.requests_ofLine, List.append_nil, List.append_nil]
  · rfl

theorem put_faithful {allowed : Request → Prop} {request : Request} (isAllowed : allowed request) :
    (put request).Faithful allowed :=
  (Exchange.Faithful.send isAllowed).mapOutcome (countPut_requests request)

theorem putAll_faithful {allowed : Request → Prop} {requests : List Request}
    (areAllowed : ∀ request ∈ requests, allowed request) : (putAll requests).Faithful allowed := by
  induction requests with
  | nil => exact .pure ()
  | cons request rest induction =>
      have others := induction fun later member => areAllowed later (.tail _ member)
      exact (put_faithful (areAllowed request (List.mem_cons_self ..))).bind fun _ _ _ => others

end Provisioning

/-! ## Attaching an artifact -/

namespace Artifact

/-! The settings that an artifact has or lacks. -/

def lifecycleJson? (artifact : Artifact) : Option Json :=
  if artifact.lifecycleRules.isEmpty then none
  else some (LifecycleRule.listJson artifact.lifecycleRules)

def lockJson? (artifact : Artifact) : Option Json := artifact.lock.map ObjectLock.json

def loggingJson? (bucketName prefixName : String) (artifact : Artifact) : Option Json :=
  if artifact.loggingBucket.isGiven then some (artifact.loggingJson bucketName prefixName)
  else none

def corsJson? (artifact : Artifact) : Option Json :=
  if artifact.corsRules.isEmpty then none else some (CorsRule.listJson artifact.corsRules)

/-- A request to put a setting of the artifact's bucket. -/
def request (artifact : Artifact) (operation : Operation) (setting : Json) : Request :=
  { operation, bucket := artifact.bucket, setting := some setting }

/-- The logging setting as it is put. -/
def loggingStatus? (artifact : Artifact) : Option Json :=
  (artifact.loggingJson? "TargetBucket" "TargetPrefix").map fun logging =>
    .obj [("LoggingEnabled", logging)]

/-- The requests of the plan, once the policy is written. -/
def planned (access : PublicAccess) (policy : String) (artifact : Artifact) : List Request :=
  [artifact.request .putPublicAccessBlock access.json,
      artifact.request .putVersioning (.obj [("Status", .str "Enabled")]),
      artifact.request .putEncryption artifact.encryptionJson,
      artifact.request .putPolicy (.str policy)] ++
    artifact.lifecycleJson?.toList.map (artifact.request .putLifecycle) ++
    artifact.lockJson?.toList.map (artifact.request .putObjectLock) ++
    artifact.loggingStatus?.toList.map (artifact.request .putLogging) ++
    artifact.corsJson?.toList.map (artifact.request .putCors)

theorem plan_eq (access : PublicAccess) (artifact : Artifact) :
    artifact.plan access =
      (Policy.document artifact.statements >>= fun policy => policy.canonical .compact).map
        fun text => artifact.planned access text := by
  simp only [planned, lifecycleJson?, lockJson?, loggingStatus?, loggingJson?, corsJson?]
  rw [plan]
  cases Policy.document artifact.statements with
  | error fault => rfl
  | ok policy =>
      change (policy.canonical .compact >>= _) = (policy.canonical .compact).map _
      cases policy.canonical .compact with
      | error fault => rfl
      | ok text =>
          cases artifact.lifecycleRules.isEmpty <;> cases artifact.lock <;>
            cases artifact.loggingBucket.isGiven <;> cases artifact.corsRules.isEmpty <;> rfl

/-- Requests of the plan name the artifact's bucket, and none but the artifact's lock is put. -/
structure Attaches (artifact : Artifact) (request : Request) : Prop where
  bucket : request.bucket = artifact.bucket
  lock : request.operation = .putObjectLock →
    ∃ lock, artifact.lock = some lock ∧ request.setting = some lock.json

theorem attaches_of_mem_planned {access : PublicAccess} {policy : String} {artifact : Artifact}
    {request : Request} (member : request ∈ artifact.planned access policy) :
    artifact.Attaches request := by
  have other (operation : Operation) (setting : Json) (different : operation ≠ .putObjectLock) :
      artifact.Attaches (artifact.request operation setting) :=
    ⟨rfl, fun puts => absurd puts different⟩
  simp only [planned, List.append_assoc, List.cons_append, List.nil_append, List.mem_cons,
    List.mem_append, List.mem_map, Option.mem_toList] at member
  -- Only the sixth request puts a lock.
  rcases member with rfl | rfl | rfl | rfl | ⟨lifecycle, -, rfl⟩ | ⟨setting, isLock, rfl⟩ |
    ⟨logging, -, rfl⟩ | ⟨cors, -, rfl⟩
  · exact other _ _ (by decide)
  · exact other _ _ (by decide)
  · exact other _ _ (by decide)
  · exact other _ _ (by decide)
  · exact other _ _ (by decide)
  · rcases Option.map_eq_some_iff.mp isLock with ⟨lock, hasLock, rendered⟩
    exact ⟨rfl, fun _ => ⟨lock, hasLock, congrArg some rendered.symm⟩⟩
  · exact other _ _ (by decide)
  · exact other _ _ (by decide)

theorem attaches_of_mem_plan {access : PublicAccess} {artifact : Artifact}
    {requests : List Request} (planned : artifact.plan access = .ok requests)
    {request : Request} (member : request ∈ requests) : artifact.Attaches request := by
  rw [plan_eq] at planned
  cases written : (Policy.document artifact.statements >>= fun policy =>
      policy.canonical .compact) with
  | error fault => rw [written] at planned; contradiction
  | ok text =>
      rw [written] at planned
      cases planned
      exact attaches_of_mem_planned member

theorem attaches_lockRequest (artifact : Artifact) :
    artifact.Attaches (Provisioning.lockRequest artifact.bucket) :=
  ⟨rfl, fun puts => nomatch puts⟩

/-! ## The lock comes first -/

theorem keepLock_of_some {artifact : Artifact} (hasLock : artifact.lock.isSome) :
    artifact.keepLock = pure () := by
  rw [keepLock, Option.isNone_eq_false_iff.mpr hasLock]
  rfl

theorem keepLock_of_none {artifact : Artifact} (noLock : artifact.lock = none) :
    artifact.keepLock = Provisioning.isLocked artifact.bucket >>= fun locked =>
      if locked then Exchange.fail (.lockHeld artifact.bucket) else pure () := by
  rw [keepLock, noLock]
  rfl

/-- Without a lock of its own, an artifact is refused where the bucket has one. -/
theorem keepLock_result {artifact : Artifact} (noLock : artifact.lock = none) (client : Client) :
    (artifact.keepLock client).1.result =
      (Provisioning.lockOf artifact.bucket client).1.result >>= fun lock =>
        if lock.isSome then .error (.lockHeld artifact.bucket) else .ok () := by
  rw [keepLock_of_none noLock, Exchange.bind_result, Provisioning.isLocked_result]
  cases (Provisioning.lockOf artifact.bucket client).1.result with
  | error failure => rfl
  | ok lock => cases lock <;> rfl

theorem keepLock_requests {artifact : Artifact} (noLock : artifact.lock = none)
    (client : Client) :
    (artifact.keepLock client).1.trail.requests =
      [Provisioning.lockRequest artifact.bucket] := by
  have silent (locked : Bool) (later : Client) :
      ((if locked then Exchange.fail (.lockHeld artifact.bucket) else pure () : Exchange Unit)
        later).1.trail.requests = [] := by
    cases locked <;> rfl
  rw [keepLock_of_none noLock, Exchange.bind_requests_of_silent silent,
    Provisioning.isLocked_requests]

/-- Once the plan is made, attaching is carrying it out. -/
theorem attach_of_plan {access : PublicAccess} {artifact : Artifact} {requests : List Request}
    (planned : artifact.plan access = .ok requests) :
    artifact.attach access = (do
      artifact.keepLock
      Provisioning.putAll requests
      Exchange.ofOutcome
        (.leave (.ofLine .info s!"Applied compiled artifact to bucket {artifact.bucket}"))) := by
  rw [attach, planned]
  rfl

/-- Nothing is put after a lock that cannot be kept. -/
theorem apply_of_keepLock_error {artifact : Artifact} {client : Client} {failure : Failure}
    (failed : (artifact.keepLock client).1.result = .error failure) (traced : Bool)
    (access : PublicAccess) :
    (artifact.apply traced access client).1.result = .error failure ∧
      (artifact.apply traced access client).1.trail.requests =
        (artifact.keepLock client).1.trail.requests := by
  rw [apply, Exchange.mapOutcome, Outcome.asSpan_result, Outcome.asSpan_requests, attach,
    Exchange.bind_of_error _ failed]
  exact ⟨rfl, rfl⟩

theorem keepLock_faithful {allowed : Request → Prop} {artifact : Artifact}
    (isAllowed : allowed (Provisioning.lockRequest artifact.bucket)) :
    artifact.keepLock.Faithful allowed := by
  unfold keepLock
  split
  · apply (Provisioning.isLocked_faithful isAllowed).bind
    intro _ locked _
    split
    · exact .fail _
    · exact .pure _
  · exact .pure _

theorem attach_faithful (access : PublicAccess) (artifact : Artifact) :
    (artifact.attach access).Faithful artifact.Attaches := by
  apply (keepLock_faithful artifact.attaches_lockRequest).bind
  intro _ _ _
  apply (Exchange.Faithful.ofOutcome rfl).bind
  intro _ requests ok
  have planned : artifact.plan access = .ok requests := by
    cases plan : artifact.plan access with
    | error fault =>
        rw [plan] at ok
        contradiction
    | ok others =>
        rw [plan] at ok
        cases ok
        rfl
  apply (Provisioning.putAll_faithful fun request => attaches_of_mem_plan planned).bind
  intro _ _ _
  exact .ofOutcome rfl

/-- Whatever becomes of it, attaching an artifact sends no request but those of its plan. -/
theorem apply_faithful (traced : Bool) (access : PublicAccess) (artifact : Artifact) :
    (artifact.apply traced access).Faithful artifact.Attaches :=
  (attach_faithful access artifact).mapOutcome fun _ => rfl

end Artifact

end BucketGuard
