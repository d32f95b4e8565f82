import BucketGuard.Trail

namespace BucketGuard

/-! A client of the storage service. It keeps the answer to a question about a bucket's object lock,
and the faults that operations meet until they are cleared. -/

inductive Fault where
  /-- The service answers with an error response. -/
  | refusal (response : List (String × Json))
  /-- No answer comes at all. -/
  | breakage (text : String)
  deriving DecidableEq, Repr

namespace Fault

def failure (operation : Operation) : Fault → Failure
  | .refusal response =>
      match ClientError.ofResponse operation response with
      | .ok error => .refused error
      | .error kind => .responseForm kind
  | .breakage text => .broken text

end Fault

structure Client where
  /-- The answers about object locks, by bucket. -/
  locks : List (String × Json)
  /-- The faults, by the name of the operation. -/
  faults : List (String × Fault)
  deriving DecidableEq, Repr

namespace Client

def fresh : Client := { locks := [], faults := [] }

/-- The code of the refusal that tells that a bucket has no object lock. -/
def noLockCode : String := "ObjectLockConfigurationNotFoundError"

def noLock : ClientError :=
  { operation := .getObjectLock, code := .str noLockCode, reason := .str "Unknown"
    retries := none }

def withLock (client : Client) (bucket : String) (response : Json) : Client :=
  { client with locks := Members.put client.locks bucket response }

def withoutLock (client : Client) (bucket : String) : Client :=
  { client with locks := client.locks.filter (·.1 ≠ bucket) }

def withFault (client : Client) (operation : String) (fault : Fault) : Client :=
  { client with faults := Members.put client.faults operation fault }

def withoutFault (client : Client) (operation : String) : Client :=
  { client with faults := client.faults.filter (·.1 ≠ operation) }

/-- What the service answers when no fault is met. A lock that is put is answered from then on. -/
def reply (client : Client) (request : Request) : Except Failure Json × Client :=
  match request.operation with
  | .getObjectLock =>
      match Members.get? client.locks request.bucket with
      | some response => (.ok response, client)
      | none => (.error (.refused noLock), client)
  | .putObjectLock =>
      let response : Json := .obj request.arguments.tail
      (.ok (.obj []), client.withLock request.bucket response)
  | _ => (.ok (.obj []), client)

def answer (client : Client) (request : Request) : Except Failure Json × Client :=
  match Members.get? client.faults request.operation.name with
  | some fault => (.error (fault.failure request.operation), client)
  | none => client.reply request

end Client

/-- Work that talks to the service: an outcome, and the client as the work leaves it. -/
def Exchange (α : Type) : Type := Client → Outcome α × Client

namespace Exchange

def ofOutcome (outcome : Outcome α) : Exchange α := fun client => (outcome, client)

def fail (failure : Failure) : Exchange α := ofOutcome (.failed failure)

instance : Monad Exchange where
  pure value := ofOutcome (.done value)
  bind first next := fun client =>
    let (outcome, client) := first client
    match outcome.result with
    | .error failure => ({ result := .error failure, trail := outcome.trail }, client)
    | .ok value =>
        let (second, client) := next value client
        ({ result := second.result, trail := outcome.trail ++ second.trail }, client)

def mapOutcome (change : Outcome α → Outcome β) (exchange : Exchange α) : Exchange β :=
  fun client =>
    let (outcome, client) := exchange client
    (change outcome, client)

/-- Sends a request. It leaves its trace whatever the answer is. -/
def send (request : Request) : Exchange Json := fun client =>
  let (answer, client) := client.answer request
  ({ result := answer, trail := .ofRequest request }, client)

end Exchange

end BucketGuard
