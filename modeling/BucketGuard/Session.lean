import BucketGuard.Compilation
import BucketGuard.Provisioning
import BucketGuard.Specification

namespace BucketGuard

/-! Sessions: steps of compiling and provisioning that share one client, mixed with steps that
change what the service answers. -/

namespace Session

inductive Step where
  | compile (specification : List (String × Json)) (strict traced : Bool)
  | apply (specification : List (String × Json)) (strict traced : Bool) (access : PublicAccess)
  | readLock (bucket : String)
  | askLocked (bucket : String)
  | setLock (bucket : String) (response : Json)
  | forgetLock (bucket : String)
  | fail (operation : String) (fault : Fault)
  | mend (operation : String)
  deriving DecidableEq, Repr

inductive Answer where
  | compiled (fingerprint : String)
  | applied
  | lock (lock : Option ObjectLock)
  | locked (locked : Bool)
  | done
  deriving DecidableEq, Repr

/-- A specification compiled from the start. -/
def compile (specification : List (String × Json)) (strict traced : Bool) :
    Outcome (Artifact × String) := do
  let configuration ← Outcome.ofExcept
    ((Specification.configuration specification).mapError .rejected)
  configuration.compile strict traced

def adjust (change : Client → Client) : Exchange Answer := fun client =>
  (.done .done, change client)

def Step.run : Step → Exchange Answer
  | .compile specification strict traced => do
      let (_, fingerprint) ← Exchange.ofOutcome (Session.compile specification strict traced)
      return .compiled fingerprint
  | .apply specification strict traced access => do
      let (artifact, _) ← Exchange.ofOutcome (Session.compile specification strict traced)
      artifact.apply traced access
      return .applied
  | .readLock bucket => do
      let lock ← Provisioning.lockOf bucket
      return .lock lock
  | .askLocked bucket => do
      let locked ← Provisioning.isLocked bucket
      return .locked locked
  | .setLock bucket response => adjust (·.withLock bucket response)
  | .forgetLock bucket => adjust (·.withoutLock bucket)
  | .fail operation fault => adjust (·.withFault operation fault)
  | .mend operation => adjust (·.withoutFault operation)

def outcomes (client : Client) : List Step → List (Outcome Answer)
  | [] => []
  | step :: rest =>
      let (outcome, client) := step.run client
      outcome :: outcomes client rest

def clientAfter (client : Client) : List Step → Client
  | [] => client
  | step :: rest => clientAfter (step.run client).2 rest

end Session

end BucketGuard
