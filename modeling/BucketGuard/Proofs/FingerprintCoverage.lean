import BucketGuard.Proofs.ArtifactText

namespace BucketGuard

/-! The fingerprinted text covers everything that is applied. Artifacts with one canonical text make
the same plan up to the canonical text of its settings, and plans like that run alike whatever the
service does. -/

/-! ## Runs alike -/

namespace Request

/-- The request with the canonical texts of its arguments. -/
def written (request : Request) : Operation × String × List (String × List Char) :=
  (request.operation, request.bucket, Json.canonicalMembers request.arguments)

end Request

namespace Client

/-- What the client keeps, with the canonical texts of the locks. -/
def written (client : Client) : List (String × Fault) × List (String × List Char) :=
  (client.faults, Json.canonicalMembers client.locks)

theorem withLock_written {left right : Client} (clients : left.written = right.written)
    (bucket : String) {leftLock rightLock : Json}
    (locks : leftLock.canonicalText = rightLock.canonicalText) :
    (left.withLock bucket leftLock).written = (right.withLock bucket rightLock).written := by
  rcases Prod.mk.inj clients with ⟨faults, stored⟩
  have put (client : Client) (lock : Json) :
      Json.canonicalMembers (Members.put client.locks bucket lock) =
        Members.put (Json.canonicalMembers client.locks) bucket lock.canonicalText :=
    Members.put_map Json.canonicalText client.locks bucket lock
  rw [written, written, withLock, withLock, put, put, faults, stored, locks]

end Client

/-- Two runs that send the same requests, leave the same client and end the same way, up to
canonical text. -/
structure RunsAlike {α : Type} (left right : Outcome α × Client) : Prop where
  result : left.1.result = right.1.result
  requests : left.1.trail.requests.map Request.written = right.1.trail.requests.map Request.written
  client : left.2.written = right.2.written

namespace RunsAlike

variable {α β : Type}

theorem ofOutcome (outcome : Outcome α) {left right : Client}
    (clients : left.written = right.written) :
    RunsAlike (Exchange.ofOutcome outcome left) (Exchange.ofOutcome outcome right) :=
  ⟨rfl, rfl, clients⟩

theorem bind {first second : Exchange α} {next further : α → Exchange β} {left right : Client}
    (alike : RunsAlike (first left) (second right))
    (goOn : ∀ value left right, left.written = right.written →
      RunsAlike (next value left) (further value right)) :
    RunsAlike ((first >>= next) left) ((second >>= further) right) := by
  cases result : (first left).1.result with
  | error failure =>
      have same : (second right).1.result = .error failure := alike.result ▸ result
      rw [Exchange.bind_of_error next result, Exchange.bind_of_error further same]
      exact ⟨rfl, alike.requests, alike.client⟩
  | ok value =>
      have same : (second right).1.result = .ok value := alike.result ▸ result
      have later := goOn value _ _ alike.client
      rw [Exchange.bind_of_ok next result, Exchange.bind_of_ok further same]
      refine ⟨later.result, ?_, later.client⟩
      rw [Trail.requests_append, Trail.requests_append, List.map_append, List.map_append,
        alike.requests, later.requests]

/-- Requests of one text are answered alike, and change what the client keeps alike. -/
private theorem reply {left right : Request} (requests : left.written = right.written)
    {leftClient rightClient : Client} (clients : leftClient.written = rightClient.written) :
    ((leftClient.reply left).1.map fun _ => ()) = ((rightClient.reply right).1.map fun _ => ()) ∧
      (leftClient.reply left).2.written = (rightClient.reply right).2.written := by
  rcases Prod.mk.inj requests with ⟨operation, rest⟩
  rcases Prod.mk.inj rest with ⟨bucket, arguments⟩
  have locks := (Prod.mk.inj clients).2
  unfold Client.reply
  rw [operation]
  split
  · have found := congrArg (Members.get? · right.bucket) locks
    simp only [Json.canonicalMembers, Members.get?_map] at found
    rw [bucket]
    cases answer : Members.get? leftClient.locks right.bucket with
    | none =>
        rw [answer, Option.map_none, eq_comm, Option.map_eq_none_iff] at found
        rw [found]
        exact ⟨rfl, clients⟩
    | some response =>
        rw [answer, Option.map_some, eq_comm] at found
        rcases Option.map_eq_some_iff.mp found with ⟨other, otherAnswer, -⟩
        rw [otherAnswer]
        exact ⟨rfl, clients⟩
  · refine ⟨rfl, ?_⟩
    have tails := congrArg List.tail arguments
    rw [Json.canonicalMembers, Json.canonicalMembers, ← List.map_tail, ← List.map_tail] at tails
    rw [bucket]
    exact Client.withLock_written clients _ (Json.sameText_iff.mp (Json.SameText.obj tails))
  · exact ⟨rfl, clients⟩

private theorem put {left right : Request} (requests : left.written = right.written)
    {leftClient rightClient : Client} (clients : leftClient.written = rightClient.written) :
    RunsAlike (Provisioning.put left leftClient) (Provisioning.put right rightClient) := by
  have operation : left.operation = right.operation := (Prod.mk.inj requests).1
  have faults : leftClient.faults = rightClient.faults := (Prod.mk.inj clients).1
  have sent (request : Request) (client : Client) :
      (Provisioning.put request client).1.trail.requests = [request] :=
    Provisioning.countPut_requests request _
  have answered (request : Request) (client : Client) :
      (Provisioning.put request client).1.result =
        (client.answer request).1.map fun _ => () := Provisioning.countPut_result request _
  have leaves (request : Request) (client : Client) :
      (Provisioning.put request client).2 = (client.answer request).2 := rfl
  have answers : ((leftClient.answer left).1.map fun _ => ()) =
        ((rightClient.answer right).1.map fun _ => ()) ∧
      (leftClient.answer left).2.written = (rightClient.answer right).2.written := by
    unfold Client.answer
    rw [faults, operation]
    split
    · exact ⟨rfl, clients⟩
    · exact reply requests clients
  refine ⟨?_, ?_, ?_⟩
  · rw [answered, answered, answers.1]
  · rw [sent, sent, List.map_singleton, List.map_singleton, requests]
  · rw [leaves, leaves, answers.2]

/-- Plans of one text run alike. -/
theorem putAll {lefts rights : List Request}
    (requests : lefts.map Request.written = rights.map Request.written)
    {leftClient rightClient : Client} (clients : leftClient.written = rightClient.written) :
    RunsAlike (Provisioning.putAll lefts leftClient) (Provisioning.putAll rights rightClient) := by
  induction lefts generalizing rights leftClient rightClient with
  | nil =>
      rw [List.map_nil, eq_comm, List.map_eq_nil_iff] at requests
      rw [requests]
      exact ofOutcome _ clients
  | cons left lefts induction =>
      cases rights with
      | nil => contradiction
      | cons right rights =>
          rw [List.map_cons, List.map_cons, List.cons.injEq] at requests
          exact (put requests.1 clients).bind fun _ _ _ => induction requests.2

end RunsAlike

/-! ## Artifacts alike -/

namespace Artifact

/-- The canonical text of the policy. -/
def policyText (artifact : Artifact) : Except KeyFault String :=
  Policy.document artifact.statements >>= fun policy => policy.canonical .compact

theorem policyText_eq (artifact : Artifact) :
    artifact.policyText =
      (Policy.document artifact.statements >>= Document.ordered).map (Json.print .compact) := by
  rw [policyText]
  cases Policy.document artifact.statements <;> rfl

/-- Artifacts whose settings have the same canonical texts. -/
structure Alike (left right : Artifact) : Prop where
  bucket : left.bucket = right.bucket
  encryptionKey : left.encryptionKey.canonicalText = right.encryptionKey.canonicalText
  policy : ∃ text, left.policyText = .ok text ∧ right.policyText = .ok text
  lifecycle :
    left.lifecycleJson?.map Json.canonicalText = right.lifecycleJson?.map Json.canonicalText
  lock : left.lockJson?.map Json.canonicalText = right.lockJson?.map Json.canonicalText
  logging : left.loggingStatus?.map Json.canonicalText = right.loggingStatus?.map Json.canonicalText
  cors : left.corsJson?.map Json.canonicalText = right.corsJson?.map Json.canonicalText

private theorem get?_values_setting (policy : Json) (artifact : Artifact) {name : String}
    (setting : name ≠ "bucket" ∧ name ≠ "encryption" ∧ name ≠ "policy") :
    (Members.get? (artifact.values policy) name).map Json.compactText =
      (Members.get? artifact.settings name).map Json.canonicalText := by
  rcases setting with ⟨bucket, encryption, isPolicy⟩
  rw [values, Members.get?, if_neg bucket.symm, Members.get?, if_neg encryption.symm, Members.get?,
    if_neg isPolicy.symm, Members.get?_map, Option.map_map]
  rfl

private theorem encryptionKey_alike {left right : Artifact}
    (same : left.encryptionField.canonicalText = right.encryptionField.canonicalText) :
    left.encryptionKey.canonicalText = right.encryptionKey.canonicalText := by
  have nodup (key : Json) : ([("kmsKeyId", key)].map Prod.fst).Nodup := by simp
  have found := Json.SameText.get? (nodup left.encryptionKey) (nodup right.encryptionKey)
    (Json.sameText_iff.mpr same) "kmsKeyId"
  simpa [Members.get?] using found

/-- The names under which the target of logs is told make no difference to what is told. -/
private theorem logging_alike {left right : Artifact}
    (same : (left.loggingJson? "targetBucket" "targetPrefix").map Json.canonicalText =
      (right.loggingJson? "targetBucket" "targetPrefix").map Json.canonicalText) :
    left.loggingStatus?.map Json.canonicalText = right.loggingStatus?.map Json.canonicalText := by
  unfold loggingStatus? loggingJson? at *
  cases leftGiven : left.loggingBucket.isGiven <;> cases rightGiven : right.loggingBucket.isGiven
  case false.false => rfl
  case false.true => simp [leftGiven, rightGiven] at same
  case true.false => simp [leftGiven, rightGiven] at same
  case true.true =>
    rw [leftGiven, rightGiven] at same
    have nodup (bucket logPrefix : Json) :
        ([("targetBucket", bucket), ("targetPrefix", logPrefix)].map Prod.fst).Nodup := by simp
    have texts : Json.SameText (left.loggingJson "targetBucket" "targetPrefix")
        (right.loggingJson "targetBucket" "targetPrefix") :=
      Json.sameText_iff.mpr (Option.some.inj same)
    have found := texts.get? (nodup _ _) (nodup _ _)
    have bucket := found "targetBucket"
    have logPrefix := found "targetPrefix"
    simp only [Members.get?, if_true, Option.map_some, Option.some.injEq,
      String.reduceEq, if_false] at bucket logPrefix
    simp only [if_true, Option.map_some, loggingJson, Json.canonicalText_obj,
      Json.canonicalMembers, List.map_cons, List.map_nil, bucket, logPrefix]

/-- The canonical text of an artifact tells those of its settings. -/
theorem alike_of_canonical_eq {left right : Artifact} {text : String}
    (ofLeft : left.canonical = .ok text) (ofRight : right.canonical = .ok text) :
    left.Alike right := by
  rw [canonical_eq] at ofLeft ofRight
  cases leftPolicy : Policy.document left.statements >>= Document.ordered with
  | error fault => rw [leftPolicy] at ofLeft; contradiction
  | ok first =>
  cases rightPolicy : Policy.document right.statements >>= Document.ordered with
  | error fault => rw [rightPolicy] at ofRight; contradiction
  | ok second =>
  rw [leftPolicy] at ofLeft
  rw [rightPolicy] at ofRight
  -- The text is unambiguous, so under every name both have a value of one text or none at all.
  have texts := String.ofList_inj.mp
    ((Except.ok.inj ofLeft).trans (Except.ok.inj ofRight).symm)
  have found := Json.get?_eq_of_text_eq (left.values_nodup first) (right.values_nodup second) texts
  have setting {name : String}
      (isSetting : name ≠ "bucket" ∧ name ≠ "encryption" ∧ name ≠ "policy") :
      (Members.get? left.settings name).map Json.canonicalText =
        (Members.get? right.settings name).map Json.canonicalText := by
    rw [← get?_values_setting first left isSetting, ← get?_values_setting second right isSetting]
    exact found name
  have lifecycle := @setting "lifecycle" (by decide)
  have lock := @setting "objectLock" (by decide)
  have logging := @setting "logging" (by decide)
  have cors := @setting "cors" (by decide)
  simp only [settings, Members.get?_append, Members.get?_optional, String.reduceEq, if_true,
    if_false, Option.or_none, Option.none_or] at lifecycle lock logging cors
  have policy : some (Json.compactText first) = some (Json.compactText second) := found "policy"
  refine
    { bucket := ?_
      encryptionKey := encryptionKey_alike (Option.some.inj (found "encryption"))
      policy := ⟨String.ofList (Json.compactText first), ?_, ?_⟩
      lifecycle, lock, cors
      logging := logging_alike logging }
  · exact Json.writeText_injective (Option.some.inj (found "bucket"))
  · rw [policyText_eq, leftPolicy]
    rfl
  · rw [policyText_eq, rightPolicy, Option.some.inj policy]
    rfl

/-! ## Plans of one text -/

namespace Alike

variable {left right : Artifact}

private theorem request_written (alike : left.Alike right) (operation : Operation)
    {leftSetting rightSetting : Json}
    (same : leftSetting.canonicalText = rightSetting.canonicalText) :
    (left.request operation leftSetting).written =
      (right.request operation rightSetting).written := by
  simp only [Request.written, Request.arguments, request, Json.canonicalMembers,
    Option.toList_some, List.map_cons, List.map_nil, alike.bucket, same]

private theorem requests_written (alike : left.Alike right) (operation : Operation)
    {leftSetting rightSetting : Option Json}
    (same : leftSetting.map Json.canonicalText = rightSetting.map Json.canonicalText) :
    (leftSetting.toList.map (left.request operation)).map Request.written =
      (rightSetting.toList.map (right.request operation)).map Request.written := by
  cases leftSetting with
  | none =>
      rw [Option.map_none, eq_comm, Option.map_eq_none_iff] at same
      rw [same]
      rfl
  | some setting =>
      rw [Option.map_some, eq_comm] at same
      rcases Option.map_eq_some_iff.mp same with ⟨other, isOther, texts⟩
      rw [isOther]
      exact congrArg (fun request => [request]) (alike.request_written operation texts.symm)

theorem planned_written (alike : left.Alike right) (access : PublicAccess) (policy : String) :
    (left.planned access policy).map Request.written =
      (right.planned access policy).map Request.written := by
  have encryption : left.encryptionJson.canonicalText = right.encryptionJson.canonicalText := by
    simp only [encryptionJson, Json.canonicalText_obj, Json.canonicalText_arr,
      Json.canonicalMembers, List.map_cons, List.map_nil, alike.encryptionKey]
  have same (operation : Operation) (setting : Json) :
      (left.request operation setting).written = (right.request operation setting).written :=
    alike.request_written operation rfl
  have encrypted := (same .putEncryption left.encryptionJson).symm.trans
    (alike.request_written .putEncryption encryption)
  simp only [planned, List.map_append, List.map_cons, List.map_nil, same, encrypted,
    alike.requests_written _ alike.lifecycle, alike.requests_written _ alike.lock,
    alike.requests_written _ alike.logging, alike.requests_written _ alike.cors]

theorem keepLock_eq (alike : left.Alike right) : left.keepLock = right.keepLock := by
  have locks := congrArg Option.isNone alike.lock
  simp only [lockJson?, Option.isNone_map] at locks
  rw [keepLock, keepLock, locks, alike.bucket]

theorem attach_alike (alike : left.Alike right) (access : PublicAccess) (client : Client) :
    RunsAlike (left.attach access client) (right.attach access client) := by
  rcases alike.policy with ⟨policy, ofLeft, ofRight⟩
  have plan {artifact : Artifact} (written : artifact.policyText = .ok policy) :
      artifact.plan access = .ok (artifact.planned access policy) := by
    rw [plan_eq, ← policyText, written]
    rfl
  rw [attach_of_plan (plan ofLeft), attach_of_plan (plan ofRight), alike.keepLock_eq, alike.bucket]
  have kept : RunsAlike (right.keepLock client) (right.keepLock client) := ⟨rfl, rfl, rfl⟩
  apply kept.bind
  intro _ _ _ clients
  apply (RunsAlike.putAll (alike.planned_written access policy) clients).bind
  intro _ _ _ clients
  exact RunsAlike.ofOutcome _ clients

end Alike

/-- Artifacts of one canonical text, and so of one fingerprint, are applied alike, whatever locks
and faults the client has. -/
theorem apply_alike_of_canonical_eq {left right : Artifact} {text : String}
    (ofLeft : left.canonical = .ok text) (ofRight : right.canonical = .ok text)
    (traced : Bool) (access : PublicAccess) (client : Client) :
    RunsAlike (left.apply traced access client) (right.apply traced access client) := by
  have alike := (alike_of_canonical_eq ofLeft ofRight).attach_alike access client
  exact ⟨alike.result, alike.requests, alike.client⟩

private def logged (logPrefix : Json) : Artifact :=
  { bucket := "ledger", encryptionKey := .str "key", statements := [], lifecycleRules := []
    lock := none, loggingBucket := .str "logs", loggingPrefix := logPrefix, corsRules := [] }

/-- A prefix that was left out and an empty one. -/
theorem logged_apply_alike :
    logged .null ≠ logged (.str "") ∧
      RunsAlike ((logged .null).apply false {} .fresh)
        ((logged (.str "")).apply false {} .fresh) := by
  refine ⟨by decide, ?_⟩
  have written : (logged .null).canonical.isOk := by decide +kernel
  have same : (logged (.str "")).canonical = (logged .null).canonical := rfl
  cases ofNull : (logged .null).canonical with
  | error fault =>
      rw [ofNull] at written
      cases written
  | ok text => exact apply_alike_of_canonical_eq ofNull (same.trans ofNull) false {} .fresh

end Artifact

end BucketGuard
