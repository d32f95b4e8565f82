import BucketGuard.CommandLine
import BucketGuard.Proofs.Outcome
import Mathlib.Tactic.SplitIfs

namespace BucketGuard

/-! The switch of tracing. The settings announce tracing, and the set-up starts it, each from its own
reading of one word of the environment. What starts is always announced, but two words announce
what never starts. -/

/-! ## Limits and batches -/

namespace AttributeLimits

/-- A value that a limit can be read from. -/
def IsLimit (value : String) : Prop :=
  let content := Text.lower (String.ofList (Text.trim value.toList))
  content = "" ∨ ∃ limit : Nat, Text.integer? content = some limit

/-- The variables that hold limits, in the order in which they are read. -/
def variableNames : List String :=
  ["OTEL_SPAN_EVENT_COUNT_LIMIT", "OTEL_SPAN_LINK_COUNT_LIMIT", "OTEL_ATTRIBUTE_COUNT_LIMIT",
    "OTEL_SPAN_ATTRIBUTE_COUNT_LIMIT", "OTEL_EVENT_ATTRIBUTE_COUNT_LIMIT",
    "OTEL_LINK_ATTRIBUTE_COUNT_LIMIT", "OTEL_ATTRIBUTE_VALUE_LENGTH_LIMIT",
    "OTEL_SPAN_ATTRIBUTE_VALUE_LENGTH_LIMIT"]

variable {environment : Environment}

theorem exists_read_iff {usual : Option Nat} {name : String} :
    (∃ limit, read environment usual name = .ok limit) ↔
      ∀ value, Members.get? environment name = some value → IsLimit value := by
  rw [read]
  cases Members.get? environment name with
  | none => simp
  | some value =>
      simp only [Option.some.injEq, forall_eq', IsLimit]
      by_cases isEmpty : Text.lower (String.ofList (Text.trim value.toList)) = ""
      · simp [isEmpty]
      · rw [if_neg isEmpty, or_iff_right isEmpty]
        cases number : Text.integer? (Text.lower (String.ofList (Text.trim value.toList))) with
        | none => simp
        | some limit =>
            cases limit with
            | ofNat limit => exact iff_of_true ⟨_, rfl⟩ ⟨limit, rfl⟩
            | negSucc below => simp

/-- Two steps succeed if each does, where the second one succeeds for all results of the first. -/
private theorem exists_bind_iff {ε α β : Type} {first : Except ε α} {next : α → Except ε β}
    {succeeds : Prop} (ofNext : ∀ value, (∃ result, next value = .ok result) ↔ succeeds) :
    (∃ result, first >>= next = .ok result) ↔ (∃ value, first = .ok value) ∧ succeeds := by
  simp only [Except.bind_eq_ok_iff]
  constructor
  · rintro ⟨result, value, isFirst, isNext⟩
    exact ⟨⟨value, isFirst⟩, (ofNext value).mp ⟨result, isNext⟩⟩
  · rintro ⟨⟨value, isFirst⟩, holds⟩
    rcases (ofNext value).mpr holds with ⟨result, isNext⟩
    exact ⟨result, value, isFirst, isNext⟩

/-- The limits can be read if each variable that is set holds one. -/
theorem exists_ofEnvironment_iff :
    (∃ limits, ofEnvironment environment = .ok limits) ↔
      ∀ name ∈ variableNames, ∀ value, Members.get? environment name = some value →
        IsLimit value := by
  simp only [variableNames, List.forall_mem_cons]
  refine (exists_bind_iff fun _ => ?_).trans (and_congr_left' exists_read_iff)
  refine (exists_bind_iff fun _ => ?_).trans (and_congr_left' exists_read_iff)
  refine (exists_bind_iff fun _ => ?_).trans (and_congr_left' exists_read_iff)
  refine (exists_bind_iff fun _ => ?_).trans (and_congr_left' exists_read_iff)
  refine (exists_bind_iff fun _ => ?_).trans (and_congr_left' exists_read_iff)
  refine (exists_bind_iff fun _ => ?_).trans (and_congr_left' exists_read_iff)
  refine (exists_bind_iff fun _ => ?_).trans (and_congr_left' exists_read_iff)
  refine (exists_bind_iff fun _ => ?_).trans (and_congr_left' exists_read_iff)
  exact iff_of_true ⟨_, rfl⟩ (List.forall_mem_nil _)

end AttributeLimits

namespace Batching

/-- Batches that fit into the queue and are sent again and again, after a time that can be waited. -/
structure IsWorkable (batching : Batching) : Prop where
  delay : 0 < batching.delay
  batch : 0 < batching.batch
  fits : batching.batch ≤ batching.queue
  finite : Binary64.ofFraction false batching.delay.toNat 1 ≠ .infinite false

theorem fault?_eq_none_iff {batching : Batching} :
    batching.fault? = none ↔ batching.IsWorkable := by
  unfold fault?
  constructor
  · intro noFault
    split_ifs at noFault
    exact ⟨by omega, by omega, by omega, by assumption⟩
  · rintro ⟨delay, batch, fits, finite⟩
    rw [if_neg (by omega), if_neg (by omega), if_neg (by omega), if_neg (by omega), if_neg finite]

end Batching

namespace Tracing

variable {environment : Environment} {service : String}

/-! ## Starting -/

/-- What the environment says besides the switch lets tracing be set up. -/
structure CanSetUp (environment : Environment) : Prop where
  limits : ∀ name ∈ AttributeLimits.variableNames, ∀ value,
    Members.get? environment name = some value → AttributeLimits.IsLimit value
  batches : (Batching.ofEnvironment environment).IsWorkable

theorem exists_setUp_started_iff :
    (∃ tracer, setUp environment service none = .started tracer) ↔ CanSetUp environment := by
  have parts : CanSetUp environment ↔
      (∃ limits, AttributeLimits.ofEnvironment environment = .ok limits) ∧
        (Batching.ofEnvironment environment).fault? = none := by
    rw [AttributeLimits.exists_ofEnvironment_iff, Batching.fault?_eq_none_iff]
    exact ⟨fun can => ⟨can.limits, can.batches⟩, fun parts => ⟨parts.1, parts.2⟩⟩
  rw [parts, setUp]
  cases AttributeLimits.ofEnvironment environment with
  | error fault => simp
  | ok limits => cases (Batching.ofEnvironment environment).fault? <;> simp

/-! ## Announcing -/

/-- The word of the switch, in small letters. -/
def switchWord (environment : Environment) : String :=
  Text.lower (environment.valueOr Settings.tracingVariable "false")

/-- The words that announce tracing and do not start it. -/
def idleWords : List String := ["1", "yes"]

theorem isEnabled_iff : isEnabled environment = true ↔ switchWord environment = "true" :=
  decide_eq_true_iff

theorem announced_iff :
    (Settings.ofEnvironment environment).tracing = true ↔
      switchWord environment = "true" ∨ switchWord environment ∈ idleWords := by
  simp only [Settings.ofEnvironment, Settings.flag, switchWord, idleWords, decide_eq_true_eq,
    List.mem_cons, List.not_mem_nil, or_false]
  exact or_left_comm

theorem exists_started_iff :
    (∃ tracer, start environment service none = .started tracer) ↔
      switchWord environment = "true" ∧ CanSetUp environment := by
  rw [start]
  by_cases isOn : switchWord environment = "true"
  · rw [if_pos (isEnabled_iff.mpr isOn), exists_setUp_started_iff, and_iff_right isOn]
  · rw [if_neg fun isEnabled => isOn (isEnabled_iff.mp isEnabled)]
    simp [isOn]

theorem start_of_idleWord (isIdle : switchWord environment ∈ idleWords)
    (exporterFault : Option String) : start environment service exporterFault = .off := by
  have isOff : switchWord environment ≠ "true" :=
    fun isOn => absurd (isOn ▸ isIdle) (by decide)
  rw [start, if_neg fun isEnabled => isOff (isEnabled_iff.mp isEnabled)]

/-- Tracing that starts was announced. What is announced and what starts are the same exactly if the
word of the switch is not idle and, where it switches tracing on, the rest of the environment lets
tracing be set up. That an idle word starts nothing is not told. -/
theorem announced_iff_started_iff (environment : Environment) (service : String) :
    (∀ tracer, start environment service none = .started tracer →
        (Settings.ofEnvironment environment).tracing = true) ∧
      (((Settings.ofEnvironment environment).tracing = true ↔
          ∃ tracer, start environment service none = .started tracer) ↔
        switchWord environment ∉ idleWords ∧
          (switchWord environment = "true" → CanSetUp environment)) ∧
      (switchWord environment ∈ idleWords →
        (Settings.ofEnvironment environment).tracing = true ∧
          (∀ exporterFault, start environment service exporterFault = .off) ∧
          CommandLine.tracingLines environment (Settings.ofEnvironment environment) = []) := by
  have apart : switchWord environment = "true" → switchWord environment ∉ idleWords :=
    fun isOn isIdle => absurd (isOn ▸ isIdle) (by decide)
  refine ⟨fun tracer started => ?_, ?_, fun isIdle => ⟨announced_iff.mpr (.inr isIdle), ?_, ?_⟩⟩
  · exact announced_iff.mpr (.inl (exists_started_iff.mp ⟨tracer, started⟩).1)
  · rw [announced_iff, exists_started_iff]
    constructor
    · intro same
      refine ⟨fun isIdle => ?_, fun isOn => (same.mp (.inl isOn)).2⟩
      exact apart (same.mp (.inr isIdle)).1 isIdle
    · rintro ⟨notIdle, canSetUp⟩
      rw [or_iff_left notIdle]
      exact ⟨fun isOn => ⟨isOn, canSetUp isOn⟩, And.left⟩
  · exact start_of_idleWord isIdle
  · rw [CommandLine.tracingLines, if_pos (announced_iff.mpr (.inr isIdle)), notices,
      start_of_idleWord isIdle]
    rfl

/-- A switch in another spelling, with a limit. -/
private def spelled : Environment :=
  [("OTEL_TRACES_ENABLED", "True"), ("OTEL_SPAN_ATTRIBUTE_COUNT_LIMIT", " 12 ")]

private theorem canSetUp_spelled : CanSetUp spelled where
  limits := by
    have others : ∀ name ∈ AttributeLimits.variableNames,
        name ≠ "OTEL_SPAN_ATTRIBUTE_COUNT_LIMIT" → Members.get? spelled name = none := by
      decide
    intro name member value found
    by_cases isCount : name = "OTEL_SPAN_ATTRIBUTE_COUNT_LIMIT"
    · subst isCount
      cases found
      exact .inr ⟨12, by decide +kernel⟩
    · rw [others name member isCount] at found
      contradiction
  batches := ⟨by decide, by decide, by decide, by decide +kernel⟩

theorem announced_and_started_of_spelled :
    CanSetUp spelled ∧ (Settings.ofEnvironment spelled).tracing = true ∧
      ∃ tracer, start spelled defaultService none = .started tracer := by
  have announced : (Settings.ofEnvironment spelled).tracing = true := by decide +kernel
  have notIdle : switchWord spelled ∉ idleWords := by decide +kernel
  refine ⟨canSetUp_spelled, announced, ?_⟩
  exact ((announced_iff_started_iff spelled defaultService).2.1.mpr
    ⟨notIdle, fun _ => canSetUp_spelled⟩).mp announced

/-- Tracing that is switched on by a number is announced, and does not start. -/
theorem announced_without_start :
    ¬∀ (environment : Environment) (service : String),
      (Settings.ofEnvironment environment).tracing = true ↔
        ∃ tracer, start environment service none = .started tracer := by
  intro alike
  have same := alike [("OTEL_TRACES_ENABLED", "1")] defaultService
  have announced : (Settings.ofEnvironment [("OTEL_TRACES_ENABLED", "1")]).tracing = true := by
    decide +kernel
  have isOff : start [("OTEL_TRACES_ENABLED", "1")] defaultService none = .off := by
    decide +kernel
  rcases same.mp announced with ⟨tracer, started⟩
  rw [isOff] at started
  contradiction

end Tracing

end BucketGuard
