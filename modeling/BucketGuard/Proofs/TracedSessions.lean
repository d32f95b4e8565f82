import BucketGuard.Proofs.Exchange
import BucketGuard.Proofs.Compilation
import Mathlib.Data.List.Forall2

namespace BucketGuard

/-! Tracing observes and does not interfere. Whatever is traced, a session gives the same answers,
sends the same requests and leaves the same lines and counts. Where everything is traced, each call
of compiling and of attaching an artifact has one span, which tells how the call ended. -/

/-! ## Work without its spans -/

/-- The trail as it is seen without tracing. -/
def Trail.withoutSpans (trail : Trail) : Trail := { trail with spans := [], notes := [] }

namespace Outcome

variable {α β : Type}

def withoutSpans (outcome : Outcome α) : Outcome α :=
  { outcome with trail := outcome.trail.withoutSpans }

theorem withoutSpans_asSpan (traced : Bool) (name : String) (attributes : List (String × Json))
    (outcome : Outcome α) :
    (outcome.asSpan traced name attributes).withoutSpans = outcome.withoutSpans := rfl

theorem withoutSpans_bind (first : Outcome α) (next : α → Outcome β) :
    (first >>= next).withoutSpans =
      first.withoutSpans >>= fun value => (next value).withoutSpans := by
  cases result : first.result with
  | error failure =>
      have seen : first.withoutSpans.result = .error failure := result
      rw [bind_of_error next result, bind_of_error _ seen]
      rfl
  | ok value =>
      have seen : first.withoutSpans.result = .ok value := result
      rw [bind_of_ok next result, bind_of_ok _ seen]
      rfl

end Outcome

namespace Exchange

variable {α β : Type}

def withoutSpans (exchange : Exchange α) : Exchange α := exchange.mapOutcome Outcome.withoutSpans

theorem withoutSpans_ofOutcome (outcome : Outcome α) :
    (Exchange.ofOutcome outcome).withoutSpans = Exchange.ofOutcome outcome.withoutSpans := rfl

theorem withoutSpans_bind (first : Exchange α) (next : α → Exchange β) :
    (first >>= next).withoutSpans =
      first.withoutSpans >>= fun value => (next value).withoutSpans := by
  funext client
  cases result : (first client).1.result with
  | error failure =>
      have seen : (first.withoutSpans client).1.result = .error failure := result
      rw [withoutSpans, mapOutcome, bind_of_error next result, bind_of_error _ seen]
      rfl
  | ok value =>
      have seen : (first.withoutSpans client).1.result = .ok value := result
      rw [withoutSpans, mapOutcome, bind_of_ok next result, bind_of_ok _ seen]
      rfl

end Exchange

theorem Artifact.withoutSpans_apply (traced : Bool) (access : PublicAccess) (artifact : Artifact) :
    (artifact.apply traced access).withoutSpans = (artifact.attach access).withoutSpans := rfl

namespace Session

/-- The step with tracing on or off. -/
def Step.withTracing (traced : Bool) : Step → Step
  | .compile specification strict _ => .compile specification strict traced
  | .apply specification strict _ access => .apply specification strict traced access
  | step => step

theorem withoutSpans_compile (specification : List (String × Json)) (strict traced other : Bool) :
    (Session.compile specification strict traced).withoutSpans =
      (Session.compile specification strict other).withoutSpans := by
  rw [Session.compile, Session.compile, Outcome.withoutSpans_bind, Outcome.withoutSpans_bind]
  simp only [Configuration.compile, Outcome.withoutSpans_asSpan]

/-- A step does the same whether it is traced or not. -/
theorem withoutSpans_run (step : Step) (traced : Bool) :
    (step.withTracing traced).run.withoutSpans = step.run.withoutSpans := by
  cases step with
  | compile specification strict other =>
      simp only [Step.withTracing, Step.run, Exchange.withoutSpans_bind,
        Exchange.withoutSpans_ofOutcome, withoutSpans_compile specification strict traced other]
  | apply specification strict other access =>
      simp only [Step.withTracing, Step.run, Exchange.withoutSpans_bind,
        Exchange.withoutSpans_ofOutcome, withoutSpans_compile specification strict traced other,
        Artifact.withoutSpans_apply]
  | _ => rfl

theorem outcomes_withTracing (client : Client) (steps : List Step) (traced : Bool) :
    (outcomes client (steps.map (Step.withTracing traced))).map Outcome.withoutSpans =
        (outcomes client steps).map Outcome.withoutSpans ∧
      clientAfter client (steps.map (Step.withTracing traced)) = clientAfter client steps := by
  induction steps generalizing client with
  | nil => exact ⟨rfl, rfl⟩
  | cons step rest induction =>
      have same : ((step.withTracing traced).run client).1.withoutSpans =
            (step.run client).1.withoutSpans ∧
          ((step.withTracing traced).run client).2 = (step.run client).2 :=
        Prod.ext_iff.mp (congrFun (withoutSpans_run step traced) client)
      rcases same with ⟨first, after⟩
      rcases induction (step.run client).2 with ⟨later, afterLater⟩
      simp only [List.map_cons, outcomes, clientAfter, first, after, later, afterLater, and_self]

end Session

/-! ## What is left for tracing -/

/-- Nothing is left for tracing. -/
structure Trail.IsQuiet (trail : Trail) : Prop where
  spans : trail.spans = []
  notes : trail.notes = []

theorem Trail.IsQuiet.append {first second : Trail} (quiet : first.IsQuiet)
    (later : second.IsQuiet) : (first ++ second).IsQuiet where
  spans := List.append_eq_nil_iff.mpr ⟨quiet.spans, later.spans⟩
  notes := List.append_eq_nil_iff.mpr ⟨quiet.notes, later.notes⟩

namespace Outcome

variable {α β : Type}

/-- The work has no spans in it, and notes something of its result alone. -/
structure Notes (noted : α → List (String × Json)) (outcome : Outcome α) : Prop where
  spans : outcome.trail.spans = []
  ok : ∀ value, outcome.result = .ok value → outcome.trail.notes = noted value
  error : ∀ failure, outcome.result = .error failure → outcome.trail.notes = []

variable {first : Outcome α} {next : α → Outcome β}

theorem bind_quiet (quiet : first.trail.IsQuiet) (later : ∀ value, (next value).trail.IsQuiet) :
    (first >>= next).trail.IsQuiet :=
  bind_trail Trail.IsQuiet (fun _ _ => Trail.IsQuiet.append) quiet fun value _ => later value

theorem Notes.bind {noted : β → List (String × Json)} (quiet : first.trail.IsQuiet)
    (later : ∀ value, (next value).Notes noted) : (first >>= next).Notes noted := by
  cases result : first.result with
  | error failure =>
      rw [bind_of_error next result]
      exact ⟨quiet.spans, nofun, fun _ _ => quiet.notes⟩
  | ok value =>
      have notes : (first.trail ++ (next value).trail).notes = (next value).trail.notes :=
        congrArg (· ++ (next value).trail.notes) quiet.notes
      rw [bind_of_ok next result]
      refine ⟨List.append_eq_nil_iff.mpr ⟨quiet.spans, (later value).spans⟩, ?_, ?_⟩
      · exact fun result ended => notes.trans ((later value).ok result ended)
      · exact fun failure ended => notes.trans ((later value).error failure ended)

end Outcome

namespace Exchange

variable {α β : Type}

/-- Whatever the service answers, the exchange leaves nothing for tracing. -/
def IsQuiet (exchange : Exchange α) : Prop := ∀ client, (exchange client).1.trail.IsQuiet

namespace IsQuiet

theorem ofOutcome {outcome : Outcome α} (quiet : outcome.trail.IsQuiet) :
    (Exchange.ofOutcome outcome).IsQuiet := fun _ => quiet

theorem pure (value : α) : (Pure.pure value : Exchange α).IsQuiet := fun _ => ⟨rfl, rfl⟩

theorem bind {first : Exchange α} {next : α → Exchange β} (quiet : first.IsQuiet)
    (later : ∀ value, (next value).IsQuiet) : (first >>= next).IsQuiet := fun client =>
  bind_trail Trail.IsQuiet (fun _ _ => Trail.IsQuiet.append) (quiet client)
    fun value _ => later value _

theorem mapOutcome {exchange : Exchange α} {change : Outcome α → Outcome β}
    (quiet : exchange.IsQuiet)
    (keeps : ∀ outcome, outcome.trail.IsQuiet → (change outcome).trail.IsQuiet) :
    (exchange.mapOutcome change).IsQuiet := fun client => keeps _ (quiet client)

end IsQuiet

end Exchange

/-! ## Compiling and attaching -/

namespace Configuration

theorem validate_quiet (strict : Bool) (configuration : Configuration) :
    (configuration.validate strict).trail.IsQuiet := by
  unfold validate
  split
  · exact Outcome.bind_quiet ⟨rfl, rfl⟩ fun _ => ⟨rfl, rfl⟩
  · exact ⟨rfl, rfl⟩

theorem validateCounting_quiet (strict : Bool) (configuration : Configuration) :
    (configuration.validateCounting strict).trail.IsQuiet := by
  simp only [validateCounting]
  split
  · exact (configuration.validate_quiet strict).append ⟨rfl, rfl⟩
  · exact configuration.validate_quiet strict

theorem compose_quiet (configuration : Configuration) : configuration.compose.trail.IsQuiet := by
  unfold compose
  split <;> exact ⟨rfl, rfl⟩

/-- The fingerprint is noted of a configuration that compiles, and nothing of any other. -/
theorem compileUntraced_notes (strict : Bool) (configuration : Configuration) :
    (configuration.compileUntraced strict).Notes
      fun compiled => [("artifact.fingerprint", .str compiled.2)] := by
  refine .bind (configuration.validateCounting_quiet strict) fun _ => ?_
  refine .bind configuration.compose_quiet fun statements => ?_
  refine .bind ⟨rfl, rfl⟩ fun _ => ?_
  refine .bind ⟨rfl, rfl⟩ fun fingerprint => ⟨rfl, ?_, nofun⟩
  rintro compiled ended
  cases ended
  rfl

end Configuration

namespace Provisioning

theorem readLock_quiet {outcome : Outcome Json} (quiet : outcome.trail.IsQuiet) (bucket : String) :
    (readLock outcome bucket).trail.IsQuiet := by
  unfold readLock
  split
  · exact quiet
  · split
    · exact quiet
    · exact quiet.append ⟨rfl, rfl⟩
  · exact quiet

theorem countPut_quiet (request : Request) {outcome : Outcome Json}
    (quiet : outcome.trail.IsQuiet) : (countPut request outcome).trail.IsQuiet := by
  unfold countPut
  split
  · exact quiet.append ⟨rfl, rfl⟩
  · exact (quiet.append ⟨rfl, rfl⟩).append ⟨rfl, rfl⟩
  · exact quiet

theorem send_quiet (request : Request) : (Exchange.send request).IsQuiet := fun _ => ⟨rfl, rfl⟩

theorem putAll_quiet (requests : List Request) : (putAll requests).IsQuiet := by
  induction requests with
  | nil => exact .pure ()
  | cons request rest induction =>
      exact .bind ((send_quiet request).mapOutcome fun _ => countPut_quiet request)
        fun _ => induction

theorem lockOf_quiet (bucket : String) : (lockOf bucket).IsQuiet :=
  (send_quiet _).mapOutcome fun _ quiet => readLock_quiet quiet bucket

theorem isLocked_quiet (bucket : String) : (isLocked bucket).IsQuiet :=
  .bind (lockOf_quiet bucket) fun _ => .pure _

end Provisioning

theorem Artifact.attach_quiet (access : PublicAccess) (artifact : Artifact) :
    (artifact.attach access).IsQuiet := by
  have keepLock : artifact.keepLock.IsQuiet := by
    unfold keepLock
    split
    · refine .bind (Provisioning.isLocked_quiet artifact.bucket) fun locked => ?_
      cases locked with
      | true => exact .ofOutcome ⟨rfl, rfl⟩
      | false => exact .pure ()
    · exact .pure ()
  refine .bind keepLock fun _ => ?_
  refine .bind (.ofOutcome ⟨rfl, rfl⟩) fun plan => ?_
  exact .bind (Provisioning.putAll_quiet plan) fun _ => .ofOutcome ⟨rfl, rfl⟩

/-! ## Calls and their spans -/

/-- A call of what tracing watches, and how it ended. -/
inductive Call where
  | compile (configuration : Configuration) (result : Except Failure (Artifact × String))
  | apply (artifact : Artifact) (result : Except Failure Unit)

namespace Call

def name : Call → String
  | compile .. => "compile_bucket_policy"
  | apply .. => "apply_bucket_artifact"

def bucket : Call → String
  | compile configuration _ => configuration.name.plain
  | apply artifact _ => artifact.bucket

def failure? : Call → Option Failure
  | compile _ (.error failure) => some failure
  | apply _ (.error failure) => some failure
  | _ => none

/-- What a call of compiling returned. -/
def compiled? : Call → Option (Artifact × String)
  | compile _ (.ok compiled) => some compiled
  | _ => none

end Call

/-- The span tells of the call: that it failed and why, as one event, or what was compiled. -/
structure Span.Reports (span : Span) (call : Call) : Prop where
  name : span.name = call.name
  bucket : Members.get? span.attributes "bucket.name" = some (.str call.bucket)
  failure : span.failure = call.failure?
  exceptions : span.exceptions.length = if call.failure?.isSome then 1 else 0
  status : span.status =
    match call.failure? with
    | some failure => .error failure.message
    | none => .unset
  noted : Members.get? span.attributes "artifact.fingerprint" =
    call.compiled?.map fun compiled => .str compiled.2
  fingerprint : ∀ compiled, call.compiled? = some compiled →
    compiled.1.fingerprint = .ok compiled.2

namespace Session

/-- The call that compiling a specification comes to, if it can be read. -/
def compileCalls (specification : List (String × Json)) (strict : Bool) : List Call :=
  match Specification.configuration specification with
  | .error _ => []
  | .ok configuration => [.compile configuration (configuration.compile strict false).result]

/-- The calls of a step, in their order: an artifact is attached where there is one. -/
def Step.calls (client : Client) : Step → List Call
  | .compile specification strict _ => compileCalls specification strict
  | .apply specification strict _ access =>
      compileCalls specification strict ++
        match (Session.compile specification strict false).result with
        | .error _ => []
        | .ok (artifact, _) => [.apply artifact (artifact.apply false access client).1.result]
  | _ => []

def calls (client : Client) : List Step → List Call
  | [] => []
  | step :: rest => step.calls client ++ calls (step.run client).2 rest

def spans (outcomes : List (Outcome Answer)) : List Span := outcomes.flatMap (·.trail.spans)

end Session

namespace Outcome

variable {α β : Type}

theorem spans_bind (first : Outcome α) (next : α → Outcome β) :
    (first >>= next).trail.spans = first.trail.spans ++
      match first.result with
      | .ok value => (next value).trail.spans
      | .error _ => [] := by
  cases result : first.result with
  | error failure => rw [bind_of_error next result, List.append_nil]
  | ok value => rw [bind_of_ok next result]; rfl

/-- Work without spans of its own has one span where it is traced, which ends as the work does. -/
theorem Notes.spans_asSpan {noted : α → List (String × Json)} {outcome : Outcome α}
    (notes : outcome.Notes noted) (traced : Bool) (name : String)
    (attributes : List (String × Json)) :
    (outcome.asSpan traced name attributes).trail.spans =
      if traced then
        [match outcome.result with
          | .ok value => (Span.opened name attributes).note (noted value)
          | .error failure => (Span.opened name attributes).record failure]
      else [] := by
  rw [asSpan, notes.spans, List.nil_append]
  cases result : outcome.result with
  | error failure =>
      rw [notes.error failure result]
      rfl
  | ok value => rw [notes.ok value result]

end Outcome

theorem Exchange.spans_bind {α β : Type} (first : Exchange α) (next : α → Exchange β)
    (client : Client) :
    ((first >>= next) client).1.trail.spans = (first client).1.trail.spans ++
      match (first client).1.result with
      | .ok value => (next value (first client).2).1.trail.spans
      | .error _ => [] := by
  cases result : (first client).1.result with
  | error failure => rw [bind_of_error next result, List.append_nil]
  | ok value => rw [bind_of_ok next result]; rfl

theorem Exchange.spans_bind_of_quiet {α β : Type} (first : Exchange α) {next : α → Exchange β}
    (quiet : ∀ value, (next value).IsQuiet) (client : Client) :
    ((first >>= next) client).1.trail.spans = (first client).1.trail.spans := by
  rw [spans_bind]
  split
  · rw [(quiet _ _).spans, List.append_nil]
  · exact List.append_nil _

namespace Call

/-- The calls that tracing tells of. -/
def watched (traced : Bool) (calls : List Call) : List Call := if traced then calls else []

theorem watched_append (traced : Bool) (first second : List Call) :
    watched traced (first ++ second) = watched traced first ++ watched traced second := by
  cases traced <;> rfl

end Call

/-- A call of compiling has one span where it is traced, which tells of the call. -/
theorem Configuration.spans_compile (strict traced : Bool) (configuration : Configuration) :
    List.Forall₂ Span.Reports (configuration.compile strict traced).trail.spans
      (Call.watched traced
        [.compile configuration (configuration.compile strict false).result]) := by
  rw [compile, (configuration.compileUntraced_notes strict).spans_asSpan]
  cases traced with
  | false => exact .nil
  | true =>
      refine .cons ?_ .nil
      rw [compile, Outcome.asSpan_result]
      cases ended : (configuration.compileUntraced strict).result with
      | error failure => exact ⟨rfl, rfl, rfl, rfl, rfl, rfl, by simp [Call.compiled?]⟩
      | ok compiled =>
          have returned : (configuration.compile strict false).result = .ok compiled := ended
          have written : compiled.1.fingerprint = .ok compiled.2 :=
            (compile_eq_ok_iff.mp returned).2.2
          exact ⟨rfl, rfl, rfl, rfl, rfl, rfl, fun _ same => Option.some.inj same ▸ written⟩

/-- Attaching has one span where it is traced, whichever request ends it. -/
theorem Artifact.spans_apply (traced : Bool) (access : PublicAccess) (artifact : Artifact)
    (client : Client) :
    List.Forall₂ Span.Reports (artifact.apply traced access client).1.trail.spans
      (Call.watched traced
        [.apply artifact (artifact.apply false access client).1.result]) := by
  have quiet := artifact.attach_quiet access client
  have notes : (artifact.attach access client).1.Notes fun _ => [] :=
    ⟨quiet.spans, fun _ _ => quiet.notes, fun _ _ => quiet.notes⟩
  rw [apply, Exchange.mapOutcome, notes.spans_asSpan]
  cases traced with
  | false => exact .nil
  | true =>
      refine .cons ?_ .nil
      rw [apply, Exchange.mapOutcome, Outcome.asSpan_result]
      cases (artifact.attach access client).1.result with
      | error failure => exact ⟨rfl, rfl, rfl, rfl, rfl, rfl, by simp [Call.compiled?]⟩
      | ok done => exact ⟨rfl, rfl, rfl, rfl, rfl, rfl, by simp [Call.compiled?]⟩

namespace Session

theorem compile_result_withTracing (specification : List (String × Json)) (strict : Bool)
    (traced other : Bool) :
    (Session.compile specification strict traced).result =
      (Session.compile specification strict other).result := by
  rw [compile_result, compile_result]
  rfl

theorem spans_compile (specification : List (String × Json)) (strict traced : Bool) :
    List.Forall₂ Span.Reports (Session.compile specification strict traced).trail.spans
      (Call.watched traced (compileCalls specification strict)) := by
  rw [Session.compile, Outcome.spans_bind, compileCalls]
  cases Specification.configuration specification with
  | error rejection => cases traced <;> exact .nil
  | ok configuration => exact configuration.spans_compile strict traced

/-- The spans of a step tell of its calls. -/
theorem spans_run (step : Step) (traced : Bool) (client : Client) :
    List.Forall₂ Span.Reports ((step.withTracing traced).run client).1.trail.spans
      (Call.watched traced (step.calls client)) := by
  have none {exchange : Exchange Answer} (quiet : exchange.IsQuiet) :
      List.Forall₂ Span.Reports (exchange client).1.trail.spans (Call.watched traced []) := by
    rw [(quiet client).spans]
    cases traced <;> exact .nil
  cases step with
  | compile specification strict other =>
      rw [Step.withTracing, Step.run, Exchange.spans_bind_of_quiet _ fun _ => .pure _]
      exact spans_compile specification strict traced
  | apply specification strict other access =>
      rw [Step.withTracing, Step.run, Exchange.spans_bind, Step.calls, Call.watched_append]
      refine List.rel_append (spans_compile specification strict traced) ?_
      have ended := compile_result_withTracing specification strict traced false
      rw [Exchange.ofOutcome, ended]
      cases (Session.compile specification strict false).result with
      | error failure => cases traced <;> exact .nil
      | ok compiled =>
          show List.Forall₂ _ (((compiled.1.apply traced access) >>= _) client).1.trail.spans _
          rw [Exchange.spans_bind_of_quiet _ fun _ => .pure _]
          exact compiled.1.spans_apply traced access client
  | readLock bucket => exact none (.bind (Provisioning.lockOf_quiet bucket) fun _ => .pure _)
  | askLocked bucket => exact none (.bind (Provisioning.isLocked_quiet bucket) fun _ => .pure _)
  | setLock bucket response => exact none fun _ => ⟨rfl, rfl⟩
  | forgetLock bucket => exact none fun _ => ⟨rfl, rfl⟩
  | fail operation fault => exact none fun _ => ⟨rfl, rfl⟩
  | mend operation => exact none fun _ => ⟨rfl, rfl⟩

theorem spans_outcomes (client : Client) (steps : List Step) (traced : Bool) :
    List.Forall₂ Span.Reports (spans (outcomes client (steps.map (Step.withTracing traced))))
      (Call.watched traced (calls client steps)) := by
  induction steps generalizing client with
  | nil => cases traced <;> exact .nil
  | cons step rest induction =>
      have after : ((step.withTracing traced).run client).2 = (step.run client).2 :=
        (Prod.ext_iff.mp (congrFun (withoutSpans_run step traced) client)).2
      rw [List.map_cons, outcomes, spans, List.flatMap_cons, calls, Call.watched_append, after]
      exact List.rel_append (spans_run step traced client) (induction _)

/-- Tracing observes: a session goes the same way whatever is traced of it, but for the spans. Where
everything is traced, each call that is reached has one span, in the order of the calls, that tells
how it ended; where nothing is, there are none. -/
theorem tracing_observes (client : Client) (steps : List Step) :
    (∀ traced, (outcomes client (steps.map (Step.withTracing traced))).map Outcome.withoutSpans =
          (outcomes client steps).map Outcome.withoutSpans ∧
        clientAfter client (steps.map (Step.withTracing traced)) = clientAfter client steps) ∧
      List.Forall₂ Span.Reports (spans (outcomes client (steps.map (Step.withTracing true))))
        (calls client steps) ∧
      spans (outcomes client (steps.map (Step.withTracing false))) = [] :=
  ⟨outcomes_withTracing client steps, spans_outcomes client steps true,
    List.forall₂_nil_right_iff.mp (spans_outcomes client steps false)⟩

end Session

end BucketGuard
