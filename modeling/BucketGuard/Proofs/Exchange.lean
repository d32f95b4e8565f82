import BucketGuard.Proofs.Members
import BucketGuard.Proofs.Outcome
import BucketGuard.Session

namespace BucketGuard

/-! Exchanges request by request. The requests that an exchange sends change the client, one after
another, and nothing else that it does changes it. -/

/-! ## One request -/

namespace Client

/-- The client as a request leaves it. -/
def after (client : Client) (request : Request) : Client := (client.answer request).2

/-- The operation meets no fault. -/
def Grants (client : Client) (operation : Operation) : Prop :=
  Members.get? client.faults operation.name = none

instance (client : Client) (operation : Operation) : Decidable (client.Grants operation) :=
  inferInstanceAs (Decidable (_ = _))

theorem answer_of_grants {client : Client} {request : Request}
    (grants : client.Grants request.operation) : client.answer request = client.reply request := by
  rw [answer, grants]

theorem answer_of_fault {client : Client} {request : Request} {fault : Fault}
    (met : Members.get? client.faults request.operation.name = some fault) :
    client.answer request = (.error (fault.failure request.operation), client) := by
  rw [answer, met]

theorem after_of_not_grants {client : Client} {request : Request}
    (faulty : ¬client.Grants request.operation) : client.after request = client := by
  rcases Option.ne_none_iff_exists'.mp faulty with ⟨fault, met⟩
  rw [after, answer_of_fault met]

/-- Only a lock that is put changes what the client keeps. -/
theorem after_of_ne_putObjectLock {client : Client} {request : Request}
    (other : request.operation ≠ .putObjectLock) : client.after request = client := by
  by_cases grants : client.Grants request.operation
  · rw [after, answer_of_grants grants, reply]
    split
    · split <;> rfl
    · contradiction
    · rfl
  · exact after_of_not_grants grants

theorem after_putObjectLock {client : Client} {request : Request}
    (grants : client.Grants request.operation) (puts : request.operation = .putObjectLock) :
    client.after request = client.withLock request.bucket (.obj request.arguments.tail) := by
  rw [after, answer_of_grants grants, reply, puts]

@[simp] theorem after_faults (client : Client) (request : Request) :
    (client.after request).faults = client.faults := by
  by_cases puts : request.operation = .putObjectLock
  · by_cases grants : client.Grants request.operation
    · rw [after_putObjectLock grants puts, withLock]
    · rw [after_of_not_grants grants]
  · rw [after_of_ne_putObjectLock puts]

/-- A request leaves the locks of all buckets but its own. -/
theorem get?_locks_after {client : Client} {request : Request} {bucket : String}
    (other : request.bucket ≠ bucket) :
    Members.get? (client.after request).locks bucket = Members.get? client.locks bucket := by
  by_cases puts : request.operation = .putObjectLock
  · by_cases grants : client.Grants request.operation
    · rw [after_putObjectLock grants puts, withLock, Members.get?_put, if_neg other]
    · rw [after_of_not_grants grants]
  · rw [after_of_ne_putObjectLock puts]

theorem get?_locks_foldl_after {client : Client} {requests : List Request} {bucket : String}
    (others : ∀ request ∈ requests, request.bucket ≠ bucket) :
    Members.get? (requests.foldl after client).locks bucket =
      Members.get? client.locks bucket := by
  induction requests generalizing client with
  | nil => rfl
  | cons request rest induction =>
      rw [List.foldl_cons, induction fun later member => others later (.tail _ member),
        get?_locks_after (others request (List.mem_cons_self ..))]

end Client

/-! ## Steps of an exchange -/

namespace Exchange

variable {α β : Type}

theorem bind_of_ok {first : Exchange α} {client : Client} {value : α} (next : α → Exchange β)
    (ok : (first client).1.result = .ok value) :
    (first >>= next) client =
      ({ result := (next value (first client).2).1.result
         trail := (first client).1.trail ++ (next value (first client).2).1.trail },
        (next value (first client).2).2) := by
  simp only [bind, ok]

theorem bind_of_error {first : Exchange α} {client : Client} {failure : Failure}
    (next : α → Exchange β) (failed : (first client).1.result = .error failure) :
    (first >>= next) client =
      ({ result := .error failure, trail := (first client).1.trail }, (first client).2) := by
  simp only [bind, failed]

theorem bind_result (first : Exchange α) (next : α → Exchange β) (client : Client) :
    ((first >>= next) client).1.result =
      (first client).1.result >>= fun value => (next value (first client).2).1.result := by
  cases result : (first client).1.result with
  | error failure => rw [bind_of_error next result]; rfl
  | ok value => rw [bind_of_ok next result]; rfl

@[simp] theorem pure_result (value : α) (client : Client) :
    ((pure value : Exchange α) client).1.result = .ok value := rfl

/-- What passes to trails put together holds of the trail of two steps if it holds of each step's. -/
theorem bind_trail (holds : Trail → Prop)
    (append : ∀ first second, holds first → holds second → holds (first ++ second))
    {first : Exchange α} {next : α → Exchange β} {client : Client}
    (ofFirst : holds (first client).1.trail)
    (ofNext : ∀ value, (first client).1.result = .ok value →
      holds (next value (first client).2).1.trail) :
    holds ((first >>= next) client).1.trail := by
  cases result : (first client).1.result with
  | error failure =>
      rw [bind_of_error next result]
      exact ofFirst
  | ok value =>
      rw [bind_of_ok next result]
      exact append _ _ ofFirst (ofNext value result)

/-- A second step that sends nothing leaves the requests of the first. -/
theorem bind_requests_of_silent {first : Exchange α} {next : α → Exchange β} {client : Client}
    (silent : ∀ value later, (next value later).1.trail.requests = []) :
    ((first >>= next) client).1.trail.requests = (first client).1.trail.requests := by
  cases result : (first client).1.result with
  | error failure => rw [bind_of_error next result]
  | ok value =>
      rw [bind_of_ok next result, Trail.requests_append, silent, List.append_nil]

/-- Work on its own that comes behind an exchange takes no part in it. -/
theorem bind_ofOutcome (first : Exchange α) (outcome : Outcome β)
    (client : Client) :
    ((first >>= fun _ => Exchange.ofOutcome outcome) client).1 =
      (first client).1 >>= fun _ => outcome := by
  cases result : (first client).1.result with
  | error failure => rw [bind_of_error _ result, Outcome.bind_of_error _ result]
  | ok value =>
      rw [bind_of_ok _ result, Outcome.bind_of_ok _ result]
      rfl

/-- An exchange that sends requests of one sort alone and leaves the client as they do. -/
structure Faithful (allowed : Request → Prop) (exchange : Exchange α) : Prop where
  sends : ∀ client, ∀ request ∈ (exchange client).1.trail.requests, allowed request
  leaves : ∀ client,
    (exchange client).2 = (exchange client).1.trail.requests.foldl Client.after client

namespace Faithful

variable {allowed : Request → Prop}

/-- Work on its own sends nothing. -/
theorem ofOutcome {outcome : Outcome α} (silent : outcome.trail.requests = []) :
    Faithful allowed (Exchange.ofOutcome outcome) where
  sends _ request member := by
    rw [Exchange.ofOutcome, silent] at member
    contradiction
  leaves client := by
    rw [Exchange.ofOutcome, silent]
    rfl

theorem pure (value : α) : Faithful allowed (Pure.pure value : Exchange α) := ofOutcome rfl

theorem fail (failure : Failure) : Faithful allowed (Exchange.fail failure : Exchange α) :=
  ofOutcome rfl

theorem bind {first : Exchange α} {next : α → Exchange β} (ofFirst : Faithful allowed first)
    (ofNext : ∀ client value, (first client).1.result = .ok value →
      Faithful allowed (next value)) :
    Faithful allowed (first >>= next) where
  sends client :=
    bind_trail (fun trail => ∀ request ∈ trail.requests, allowed request)
      (fun _ _ first second => List.forall_mem_append.mpr ⟨first, second⟩) (ofFirst.sends client)
      fun value result => (ofNext client value result).sends _
  leaves client := by
    cases result : (first client).1.result with
    | error failure =>
        rw [bind_of_error next result]
        exact ofFirst.leaves client
    | ok value =>
        rw [bind_of_ok next result, Trail.requests_append, List.foldl_append,
          ← ofFirst.leaves client]
        exact (ofNext client value result).leaves _

theorem mapOutcome {exchange : Exchange α} {change : Outcome α → Outcome β}
    (faithful : Faithful allowed exchange)
    (same : ∀ outcome, (change outcome).trail.requests = outcome.trail.requests) :
    Faithful allowed (exchange.mapOutcome change) where
  sends client request member := by
    rw [Exchange.mapOutcome, same] at member
    exact faithful.sends client request member
  leaves client := by
    rw [Exchange.mapOutcome, same]
    exact faithful.leaves client

theorem send {request : Request} (isAllowed : allowed request) :
    Faithful allowed (Exchange.send request) where
  sends _ other member := by
    rw [List.mem_singleton.mp member]
    exact isAllowed
  leaves _ := rfl

/-- What holds of all requests of a wider sort. -/
theorem weaken {wider : Request → Prop} {exchange : Exchange α}
    (faithful : Faithful allowed exchange) (widens : ∀ request, allowed request → wider request) :
    Faithful wider exchange where
  sends client request member := widens request (faithful.sends client request member)
  leaves := faithful.leaves

end Faithful

/-- Every line that the exchange logs is of one sort, whatever the service answers. -/
def Tells (holds : LogLine → Prop) (exchange : Exchange α) : Prop :=
  ∀ client, (exchange client).1.Tells holds

namespace Tells

variable {holds : LogLine → Prop}

theorem ofOutcome {outcome : Outcome α} (tells : outcome.Tells holds) :
    Tells holds (Exchange.ofOutcome outcome) := fun _ => tells

theorem pure (value : α) : Tells holds (Pure.pure value : Exchange α) := fun _ => .silent rfl

theorem fail (failure : Failure) : Tells holds (Exchange.fail failure : Exchange α) :=
  fun _ => .silent rfl

theorem send (request : Request) : Tells holds (Exchange.send request) := fun _ => .silent rfl

theorem bind {first : Exchange α} {next : α → Exchange β} (ofFirst : Tells holds first)
    (ofNext : ∀ client value, (first client).1.result = .ok value → Tells holds (next value)) :
    Tells holds (first >>= next) := fun client =>
  bind_trail (fun trail => ∀ line ∈ trail.lines, holds line)
    (fun _ _ first second => List.forall_mem_append.mpr ⟨first, second⟩) (ofFirst client)
    fun value result => ofNext client value result _

theorem mapOutcome {exchange : Exchange α} {change : Outcome α → Outcome β}
    (tells : Tells holds exchange)
    (adds : ∀ outcome, outcome.Tells holds → (change outcome).Tells holds) :
    Tells holds (exchange.mapOutcome change) := fun client => adds _ (tells client)

end Tells

end Exchange

end BucketGuard
