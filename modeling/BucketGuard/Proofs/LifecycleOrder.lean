import BucketGuard.Proofs.SidUniqueness

namespace BucketGuard

/-! Lifecycle rules in order. Nothing is wrong with a list of transitions exactly if its days are
counts that increase all along, up to an expiration behind them, and nothing with a list of rules if
each is in order and has a name of its own. -/

/-! ## Counts -/

namespace Json

theorem int?_eq_some_iff {value : Json} {number : Int} :
    value.int? = some number ↔ value = .int number := by
  unfold int?
  split
  · simp
  next other => simpa using other number

theorem count?_eq_some_iff {value : Json} {count : Int} :
    value.count? = some count ↔ value = .int count ∧ 0 ≤ count := by
  rw [count?, Option.filter_eq_some_iff, int?_eq_some_iff, decide_eq_true_eq]

theorem positive?_eq_some_iff {value : Json} {number : Int} :
    value.positive? = some number ↔ value = .int number ∧ 0 < number := by
  rw [positive?, Option.filter_eq_some_iff, int?_eq_some_iff, decide_eq_true_eq]

end Json

/-! ## Transitions -/

namespace Transition

/-- The days of the transition are a count. -/
def HasDays (transition : Transition) (days : Int) : Prop :=
  transition.afterDays = .int days ∧ 0 ≤ days

theorem days?_eq_some_iff {transition : Transition} {days : Int} :
    transition.days? = some days ↔ transition.HasDays days := Json.count?_eq_some_iff

def HasKnownClass (transition : Transition) : Prop :=
  transition.storageClass ∈ storageClasses.map Tree.str

instance (transition : Transition) : Decidable transition.HasKnownClass :=
  inferInstanceAs (Decidable (_ ∈ _))

/-- Nothing is wrong with a list of transitions if their days are counts that increase from the days
before the list, and their storage classes are known. -/
theorem listErrors_eq_nil_iff {path : Path} {previous : Option Int} {index : Nat}
    {transitions : List Transition} :
    listErrors path previous index transitions = [] ↔
      (∃ days, List.Forall₂ HasDays transitions days ∧
        (previous.toList ++ days).IsChain (· < ·)) ∧
      ∀ transition ∈ transitions, transition.HasKnownClass := by
  induction transitions generalizing previous index with
  | nil => cases previous <;> simp [listErrors]
  | cons first rest induction =>
      rw [listErrors, List.append_eq_nil_iff, induction, List.forall_mem_cons]
      simp only [List.forall₂_cons_left_iff, ← days?_eq_some_iff]
      cases isDays : first.days? with
      | none => simp [errors, isDays]
      | some day =>
          have own : first.errors (path.item index) previous = [] ↔
              first.HasKnownClass ∧ ∀ earlier ∈ previous, earlier < day := by
            cases previous <;>
              simp [errors, isDays, classErrors, orderErrors, Path.flag_eq_nil_iff, HasKnownClass]
          have chain : ∀ days : List Int, (previous.toList ++ day :: days).IsChain (· < ·) ↔
              (∀ earlier ∈ previous, earlier < day) ∧ (day :: days).IsChain (· < ·) := by
            intro days
            cases previous <;> simp
          rw [own]
          simp only [Option.some_or, Option.toList_some, List.singleton_append]
          constructor
          · rintro ⟨⟨known, above⟩, ⟨days, allDays, increasing⟩, others⟩
            exact ⟨⟨day :: days, ⟨day, days, rfl, allDays, rfl⟩, (chain days).mpr ⟨above, increasing⟩⟩,
              known, others⟩
          · rintro ⟨⟨-, ⟨own, days, equal, allDays, rfl⟩, increasing⟩, known, others⟩
            cases equal
            rcases (chain days).mp increasing with ⟨above, increasing⟩
            exact ⟨⟨known, above⟩, ⟨days, allDays, increasing⟩, others⟩

end Transition

/-! ## Rules -/

/-- A rule has one list of transitions for current versions of objects and one for others. -/
inductive Schedule where
  | current
  | noncurrent
  deriving DecidableEq, Repr

namespace Schedule

def field : Schedule → String
  | .current => "transitions"
  | .noncurrent => "noncurrent_transitions"

def transitions (rule : LifecycleRule) : Schedule → List Transition
  | .current => rule.transitions
  | .noncurrent => rule.noncurrentTransitions

def expiration (rule : LifecycleRule) : Schedule → Json
  | .current => rule.expirationDays
  | .noncurrent => rule.noncurrentExpirationDays

/-- The days of the transitions increase, the storage classes are known, and an expiration comes
after all of them. -/
def IsOrderly (transitions : List Transition) (expiration : Json) : Prop :=
  ∃ days, List.Forall₂ Transition.HasDays transitions days ∧ days.Pairwise (· < ·) ∧
    (∀ transition ∈ transitions, transition.HasKnownClass) ∧
    (expiration = .null ∨
      ∃ last, expiration = .int last ∧ 0 < last ∧ ∀ day ∈ days, day < last)

end Schedule

namespace LifecycleRule

theorem expirationErrors_eq_nil_iff {path : Path} {expiration : Json} {last : Option Int} :
    expirationErrors path expiration last = [] ↔
      expiration = .null ∨
        ∃ days, expiration = .int days ∧ 0 < days ∧ ∀ previous ∈ last, previous < days := by
  unfold expirationErrors
  split
  next isNull => simp [isNull]
  next given =>
    simp only [given, false_or, ← and_assoc, ← Json.positive?_eq_some_iff]
    cases expiration.positive? with
    | none => simp
    | some days => cases last <;> simp [Path.flag_eq_nil_iff]

private theorem lastDays?_of_forall₂ {transitions : List Transition} {days : List Int}
    (haveDays : List.Forall₂ Transition.HasDays transitions days) :
    Transition.lastDays? transitions = days.getLast? := by
  have all : transitions.filterMap Transition.days? = days := by
    induction haveDays with
    | nil => rfl
    | cons hasDays _ induction =>
        rw [List.filterMap_cons, Transition.days?_eq_some_iff.mpr hasDays, induction]
  rw [Transition.lastDays?, all]

/-- The last of some increasing numbers stands for all of them. -/
private theorem forall_lt_iff_getLast? {days : List Int} (increasing : days.Pairwise (· < ·))
    {bound : Int} : (∀ day ∈ days, day < bound) ↔ ∀ last ∈ days.getLast?, last < bound := by
  constructor
  · intro all last isLast
    exact all last (List.mem_of_getLast? isLast)
  · intro ofLast day member
    rcases List.eq_nil_or_concat days with rfl | ⟨front, last, rfl⟩
    · contradiction
    · have below := ofLast last (by simp)
      rw [List.concat_eq_append] at increasing member
      rcases List.mem_append.mp member with inFront | isLast
      · have := (List.pairwise_append.mp increasing).2.2 day inFront last (.head _)
        omega
      · rwa [List.mem_singleton.mp isLast]

theorem scheduleErrors_eq_nil_iff {path expirationPath : Path} {transitions : List Transition}
    {expiration : Json} :
    scheduleErrors path expirationPath transitions expiration = [] ↔
      Schedule.IsOrderly transitions expiration := by
  rw [scheduleErrors, List.append_eq_nil_iff, Transition.listErrors_eq_nil_iff,
    expirationErrors_eq_nil_iff, Option.toList_none, Schedule.IsOrderly]
  simp only [List.nil_append, List.isChain_iff_pairwise]
  constructor
  · rintro ⟨⟨⟨days, haveDays, increasing⟩, known⟩, expires⟩
    rw [lastDays?_of_forall₂ haveDays] at expires
    simp only [← forall_lt_iff_getLast? increasing] at expires
    exact ⟨days, haveDays, increasing, known, expires⟩
  · rintro ⟨days, haveDays, increasing, known, expires⟩
    simp only [forall_lt_iff_getLast? increasing] at expires
    rw [lastDays?_of_forall₂ haveDays]
    exact ⟨⟨⟨days, haveDays, increasing⟩, known⟩, expires⟩

/-- Nothing but its name can be wrong with a rule. -/
structure IsSound (rule : LifecycleRule) : Prop where
  enabled : ∃ flag, rule.enabled = .bool flag
  schedules : ∀ schedule : Schedule,
    Schedule.IsOrderly (schedule.transitions rule) (schedule.expiration rule)
  abort : rule.abortUploadDays = .null ∨ ∃ days, rule.abortUploadDays = .int days ∧ 0 < days

theorem isSwitch_iff {value : Json} : isSwitch value = true ↔ ∃ flag, value = .bool flag := by
  cases value with
  | arr items => simp [isSwitch]
  | obj members => simp [isSwitch]
  | leaf scalar => cases scalar <;> simp [isSwitch]

theorem isPeriod_iff {value : Json} :
    isPeriod value = true ↔ value = .null ∨ ∃ days, value = .int days ∧ 0 < days := by
  simp only [isPeriod, Bool.or_eq_true, decide_eq_true_eq, Option.isSome_iff_exists,
    Json.positive?_eq_some_iff]

theorem errors_eq_nil_iff {path : Path} {rule : LifecycleRule} :
    rule.errors path = [] ↔ rule.id.isText = true ∧ rule.IsSound := by
  simp only [errors, List.append_eq_nil_iff, Path.flag_eq_nil_iff, Bool.not_eq_false',
    scheduleErrors_eq_nil_iff, isSwitch_iff, isPeriod_iff]
  constructor
  · rintro ⟨⟨⟨⟨named, enabled⟩, current⟩, noncurrent⟩, abort⟩
    refine ⟨named, enabled, fun schedule => ?_, abort⟩
    cases schedule with
    | current => exact current
    | noncurrent => exact noncurrent
  · rintro ⟨named, sound⟩
    exact ⟨⟨⟨⟨named, sound.enabled⟩, sound.schedules .current⟩, sound.schedules .noncurrent⟩,
      sound.abort⟩

/-! ## Rules one after another -/

theorem name?_eq_some_iff {rule : LifecycleRule} {name : String} :
    rule.name? = some name ↔ rule.id = .str name ∧ name ≠ "" := by
  rw [name?, Option.filter_eq_some_iff, Json.str?_eq_some_iff, decide_eq_true_eq]

/-- Nothing is wrong with some rules if each of them is sound and has a name that neither another
one has nor was seen before. -/
theorem listErrors_eq_nil_iff {seen : List String} {index : Nat} {rules : List LifecycleRule} :
    listErrors seen index rules = [] ↔
      (∃ names : List String, rules.map LifecycleRule.id = names.map Tree.str ∧ names.Nodup ∧
        ∀ name ∈ names, name ≠ "" ∧ name ∉ seen) ∧
      ∀ rule ∈ rules, rule.IsSound := by
  induction rules generalizing seen index with
  | nil => simp [listErrors]
  | cons rule rest induction =>
      simp only [listErrors, List.append_eq_nil_iff, induction, errors_eq_nil_iff,
        List.forall_mem_cons, duplicateErrors, List.map_cons]
      constructor
      · rintro ⟨⟨⟨named, sound⟩, fresh⟩, ⟨names, ids, nodup, apart⟩, others⟩
        rcases Json.isText_iff.mp named with ⟨name, isName, nonempty⟩
        rw [name?_eq_some_iff.mpr ⟨isName, nonempty⟩] at fresh apart
        simp only [Path.flag_eq_nil_iff, decide_eq_false_iff_not] at fresh
        simp only [Option.toList_some, List.singleton_append, List.mem_cons, not_or] at apart
        refine ⟨⟨name :: names, by rw [isName, ids, List.map_cons], ?_, ?_⟩, sound, others⟩
        · exact List.nodup_cons.mpr ⟨fun member => (apart name member).2.1 rfl, nodup⟩
        · exact List.forall_mem_cons.mpr
            ⟨⟨nonempty, fresh⟩, fun other member => ⟨(apart other member).1, (apart other member).2.2⟩⟩
      · rintro ⟨⟨names, ids, nodup, apart⟩, sound, others⟩
        cases names with
        | nil => contradiction
        | cons name names =>
            rw [List.map_cons, List.cons.injEq] at ids
            rw [List.forall_mem_cons] at apart
            rcases apart with ⟨⟨nonempty, fresh⟩, apart⟩
            rcases List.nodup_cons.mp nodup with ⟨notLater, nodup⟩
            rw [name?_eq_some_iff.mpr ⟨ids.1, nonempty⟩]
            simp only [Path.flag_eq_nil_iff, decide_eq_false_iff_not, Option.toList_some,
              List.singleton_append, List.mem_cons, not_or]
            refine ⟨⟨⟨Json.isText_iff.mpr ⟨name, ids.1, nonempty⟩, sound⟩, fresh⟩,
              ⟨names, ids.2, nodup, fun other member => ?_⟩, others⟩
            refine ⟨(apart other member).1, ?_, (apart other member).2⟩
            rintro rfl
            exact notLater member

end LifecycleRule

end BucketGuard
