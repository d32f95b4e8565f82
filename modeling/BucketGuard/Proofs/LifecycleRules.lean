import BucketGuard.Proofs.LifecycleOrder
import BucketGuard.Proofs.Sections

namespace BucketGuard

/-! What is reported of lifecycle rules. An error of a rule or of a transition is found by its place.
Validation compares the days of a transition with the nearest earlier days that are a count, and a
transition whose days are no count is reported for them alone. -/

/-! ## Transitions -/

namespace Transition

/-- Of some transitions, the last whose days are a count has these days. -/
def NearestDays (earlier : List Transition) (days : Int) : Prop :=
  ∃ front transition between, earlier = front ++ transition :: between ∧
    transition.HasDays days ∧ ∀ other ∈ between, ∀ count, ¬other.HasDays count

theorem lastDays?_eq_some_iff {transitions : List Transition} {days : Int} :
    lastDays? transitions = some days ↔ NearestDays transitions days := by
  have noDays : ∀ other : Transition, other.days? = none ↔ ∀ count, ¬other.HasDays count := by
    intro other
    simp only [← days?_eq_some_iff, Option.eq_none_iff_forall_ne_some, ne_eq]
  rw [lastDays?, List.getLast?_filterMap, List.findSome?_eq_some_iff]
  constructor
  · rintro ⟨between, transition, front, cut, isDays, none⟩
    refine ⟨front.reverse, transition, between.reverse, ?_, days?_eq_some_iff.mp isDays, ?_⟩
    · rw [← List.reverse_reverse transitions, cut]
      simp
    · intro other member
      exact (noDays other).mp (none other (List.mem_reverse.mp member))
  · rintro ⟨front, transition, between, rfl, hasDays, none⟩
    refine ⟨between.reverse, transition, front.reverse, by simp, days?_eq_some_iff.mpr hasDays, ?_⟩
    intro other member
    exact (noDays other).mpr (none other (List.mem_reverse.mp member))

theorem lastDays?_cons (transition : Transition) (rest : List Transition) :
    lastDays? (transition :: rest) = (lastDays? rest).or transition.days? := by
  rw [lastDays?, List.filterMap_cons]
  cases transition.days? with
  | none => rw [Option.or_none, lastDays?]
  | some days =>
      rw [List.getLast?_cons, lastDays?]
      cases (rest.filterMap days?).getLast? <;> rfl

/-- Each transition of a list is judged after the last days before it that are a count. -/
theorem mem_listErrors_iff {path : Path} {previous : Option Int} {index : Nat}
    {transitions : List Transition} {error : FieldError} :
    error ∈ listErrors path previous index transitions ↔
      ∃ (place : Nat) (transition : Transition), transitions[place]? = some transition ∧
        error ∈ transition.errors (path.item (index + place))
          ((lastDays? (transitions.take place)).or previous) := by
  induction transitions generalizing previous index with
  | nil => simp [listErrors]
  | cons first rest induction =>
      rw [listErrors, List.mem_append, induction]
      constructor
      · rintro (own | ⟨place, transition, found, member⟩)
        · exact ⟨0, first, rfl, own⟩
        · refine ⟨place + 1, transition, found, ?_⟩
          rwa [List.take_succ_cons, lastDays?_cons, Option.or_assoc, Nat.add_comm place,
            ← Nat.add_assoc]
      · rintro ⟨place, transition, found, member⟩
        cases place with
        | zero =>
            cases found
            exact .inl member
        | succ place =>
            refine .inr ⟨place, transition, found, ?_⟩
            rwa [List.take_succ_cons, lastDays?_cons, Option.or_assoc, Nat.add_comm place,
              ← Nat.add_assoc] at member

/-- The days are no count, or not above the nearest earlier days that are one. -/
def IsOutOfPlace (earlier : List Transition) (transition : Transition) : Prop :=
  ∀ days, transition.HasDays days → ∃ previous, NearestDays earlier previous ∧ days ≤ previous

/-- The days of a transition are reported if they are out of place, and only then. -/
theorem exists_at_afterDays_iff {path : Path} {earlier : List Transition}
    {transition : Transition} :
    (∃ error ∈ transition.errors path (lastDays? earlier), error.path = path.field "after_days") ↔
      IsOutOfPlace earlier transition := by
  have elsewhere : path.field "storage_class" ≠ path.field "after_days" := by
    simp [Path.field]
  unfold errors IsOutOfPlace
  simp only [← days?_eq_some_iff, ← lastDays?_eq_some_iff]
  cases transition.days? with
  | none => simp
  | some days =>
      rw [Path.exists_at_append_iff, classErrors, Path.exists_at_flag_iff]
      cases lastDays? earlier with
      | none => simp [orderErrors, elsewhere]
      | some previous =>
          rw [orderErrors, Path.exists_at_flag_iff]
          simp [elsewhere]

/-- A storage class is judged of a transition only if its days are a count. -/
theorem exists_at_storageClass_iff {path : Path} {previous : Option Int}
    {transition : Transition} :
    (∃ error ∈ transition.errors path previous, error.path = path.field "storage_class") ↔
      ¬transition.HasKnownClass ∧ ∃ days, transition.HasDays days := by
  have elsewhere : path.field "after_days" ≠ path.field "storage_class" := by
    simp [Path.field]
  unfold errors HasKnownClass
  simp only [← days?_eq_some_iff]
  cases transition.days? with
  | none => simp [elsewhere]
  | some days =>
      rw [Path.exists_at_append_iff, classErrors, Path.exists_at_flag_iff]
      cases previous with
      | none => simp [orderErrors]
      | some previous =>
          rw [orderErrors, Path.exists_at_flag_iff]
          simp [elsewhere]

end Transition

namespace Schedule

theorem isPlainName_field (schedule : Schedule) : IsPlainName schedule.field := by
  cases schedule <;> decide

theorem field_injective {left right : Schedule} (same : left.field = right.field) :
    left = right := by
  cases left <;> cases right
  · rfl
  · exact absurd same (by decide)
  · exact absurd same (by decide)
  · rfl

end Schedule

namespace LifecycleRule

/-! ## Errors by their places -/

def pathAt (index : Nat) : Path := (Path.ofRoot "lifecycle_rules").item index

/-- Each rule is judged on its own, and after the names of the rules before it. -/
theorem mem_listErrors_iff {seen : List String} {index : Nat} {rules : List LifecycleRule}
    {error : FieldError} :
    error ∈ listErrors seen index rules ↔
      ∃ (place : Nat) (rule : LifecycleRule), rules[place]? = some rule ∧
        (error ∈ rule.errors (pathAt (index + place)) ∨
          error ∈ rule.duplicateErrors (pathAt (index + place))
            ((rules.take place).reverse.filterMap name? ++ seen)) := by
  induction rules generalizing seen index with
  | nil => simp [listErrors]
  | cons first rest induction =>
      have names : ∀ place : Nat, ((first :: rest).take (place + 1)).reverse.filterMap name? ++ seen =
          (rest.take place).reverse.filterMap name? ++ (first.name?.toList ++ seen) := by
        intro place
        rw [List.take_succ_cons, List.reverse_cons, List.filterMap_append, List.append_assoc]
        cases named : first.name? <;> simp [named]
      simp only [listErrors, List.mem_append, induction]
      constructor
      · rintro (own | ⟨place, rule, found, member⟩)
        · exact ⟨0, first, rfl, own⟩
        · refine ⟨place + 1, rule, found, ?_⟩
          rwa [names, Nat.add_comm place, ← Nat.add_assoc]
      · rintro ⟨place, rule, found, member⟩
        cases place with
        | zero =>
            cases found
            exact .inl member
        | succ place =>
            refine .inr ⟨place, rule, found, ?_⟩
            rwa [names, Nat.add_comm place, ← Nat.add_assoc] at member

/-- What stands at or below the place of a rule is an error of that rule. -/
private theorem mem_listErrors_iff_of_isAbove {index : Nat} {rules : List LifecycleRule}
    {error : FieldError} (above : (pathAt index).IsAbove error) :
    error ∈ listErrors [] 0 rules ↔
      ∃ rule, rules[index]? = some rule ∧
        (error ∈ rule.errors (pathAt index) ∨
          error ∈ rule.duplicateErrors (pathAt index)
            ((rules.take index).reverse.filterMap name?)) := by
  rw [mem_listErrors_iff]
  simp only [Nat.zero_add, List.append_nil]
  constructor
  · rintro ⟨place, rule, found, member⟩
    have same : place = index := by
      rcases member with own | duplicate
      · exact (isAbove_of_mem_errors own).item_unique above
      · exact (isAbove_of_mem_duplicateErrors duplicate).item_unique above
    subst same
    exact ⟨rule, found, member⟩
  · rintro ⟨rule, found, member⟩
    exact ⟨index, rule, found, member⟩

theorem mem_duplicateErrors_iff {path : Path} {seen : List String} {rule : LifecycleRule}
    {error : FieldError} :
    error ∈ rule.duplicateErrors path seen ↔
      ∃ name, rule.name? = some name ∧ name ∈ seen ∧
        error = { path := path.field "id", problem := .ruleIdDuplicate name } := by
  unfold duplicateErrors
  cases rule.name? with
  | none => simp
  | some name => simp [Path.flag]

/-- The fields of a rule that are judged by their values alone, its name apart. -/
def plainFields : List String :=
  ["enabled", "expiration_after_days", "noncurrent_expiration_after_days",
    "abort_incomplete_multipart_upload_days"]

theorem mem_errors_cases {path : Path} {rule : LifecycleRule} {error : FieldError}
    (member : error ∈ rule.errors path) :
    error ∈ (path.field "id").flag (!rule.id.isText) .ruleIdMissing ∨
      (∃ schedule : Schedule, error ∈ Transition.listErrors (path.field schedule.field) none 0
        (schedule.transitions rule)) ∨
      ∃ name ∈ plainFields, (path.field name).IsAbove error := by
  simp only [errors, scheduleErrors, List.mem_append] at member
  rcases member with (((id | enabled) | (current | expiration)) | (noncurrent | expiration)) | abort
  · exact .inl id
  · exact .inr (.inr ⟨_, .head _, Path.isAbove_of_mem_flag enabled⟩)
  · exact .inr (.inl ⟨.current, current⟩)
  · exact .inr (.inr ⟨_, .tail _ (.head _),
      Path.isAbove_of_eq (path_of_mem_expirationErrors expiration)⟩)
  · exact .inr (.inl ⟨.noncurrent, noncurrent⟩)
  · exact .inr (.inr ⟨_, .tail _ (.tail _ (.head _)),
      Path.isAbove_of_eq (path_of_mem_expirationErrors expiration)⟩)
  · exact .inr (.inr ⟨_, .tail _ (.tail _ (.tail _ (.head _))), Path.isAbove_of_mem_flag abort⟩)

/-- What stands below the field of a list of transitions is an error of that list. -/
private theorem mem_errors_iff_of_isAbove {path : Path} {rule : LifecycleRule}
    {schedule : Schedule} {error : FieldError} (above : (path.field schedule.field).IsAbove error) :
    error ∈ rule.errors path ↔
      error ∈ Transition.listErrors (path.field schedule.field) none 0
        (schedule.transitions rule) := by
  constructor
  · intro member
    rcases mem_errors_cases member with id | ⟨other, ofList⟩ | ⟨name, isPlain, ofPlain⟩
    · have same := above.field_unique (Path.isAbove_of_mem_flag id)
      exact absurd same (by cases schedule <;> decide)
    · have same := above.field_unique (Transition.isAbove_of_mem_listErrors ofList)
      rwa [Schedule.field_injective same]
    · have same := above.field_unique ofPlain
      subst same
      exact absurd isPlain (by cases schedule <;> decide)
  · intro member
    simp only [errors, scheduleErrors, List.mem_append]
    cases schedule with
    | current => exact .inl (.inl (.inr (.inl member)))
    | noncurrent => exact .inl (.inr (.inl member))

/-- At its own place the name of a rule is only ever reported as missing. -/
private theorem problem_of_mem_errors {path : Path} {rule : LifecycleRule} {error : FieldError}
    (member : error ∈ rule.errors path) (atId : error.path = path.field "id") :
    error.problem = .ruleIdMissing := by
  have above : (path.field "id").IsAbove error := Path.isAbove_of_eq atId
  rcases mem_errors_cases member with id | ⟨schedule, ofList⟩ | ⟨name, isPlain, ofPlain⟩
  · unfold Path.flag at id
    split at id
    · exact congrArg FieldError.problem (List.mem_singleton.mp id)
    · contradiction
  · have same := above.field_unique (Transition.isAbove_of_mem_listErrors ofList)
    exact absurd same (by cases schedule <;> decide)
  · have same := above.field_unique ofPlain
    subst same
    exact absurd isPlain (by decide)

def transitionPath (index : Nat) (schedule : Schedule) (place : Nat) : Path :=
  ((pathAt index).field schedule.field).item place

/-- What stands below the place of a transition is an error of that transition, after the last days
before it that are a count. -/
theorem mem_listErrors_iff_of_transition {index place : Nat} {schedule : Schedule}
    {rules : List LifecycleRule} {error : FieldError}
    (above : (transitionPath index schedule place).IsAbove error) :
    error ∈ listErrors [] 0 rules ↔
      ∃ rule transition, rules[index]? = some rule ∧
        (schedule.transitions rule)[place]? = some transition ∧
        error ∈ transition.errors (transitionPath index schedule place)
          (Transition.lastDays? ((schedule.transitions rule).take place)) := by
  have inField : ((pathAt index).field schedule.field).IsAbove error := above.of_item
  rw [mem_listErrors_iff_of_isAbove (inField.of_field schedule.isPlainName_field)]
  constructor
  · rintro ⟨rule, found, own | duplicate⟩
    · rw [mem_errors_iff_of_isAbove inField, Transition.mem_listErrors_iff] at own
      rcases own with ⟨other, transition, isTransition, member⟩
      rw [Nat.zero_add, Option.or_none] at member
      have same : other = place := (Transition.isAbove_of_mem_errors member).item_unique above
      subst same
      exact ⟨rule, transition, found, isTransition, member⟩
    · rcases mem_duplicateErrors_iff.mp duplicate with ⟨name, -, -, rfl⟩
      have same := inField.field_unique (Path.isAbove_of_eq rfl)
      exact absurd same (by cases schedule <;> decide)
  · rintro ⟨rule, transition, found, isTransition, member⟩
    refine ⟨rule, found, .inl ?_⟩
    rw [mem_errors_iff_of_isAbove inField, Transition.mem_listErrors_iff]
    refine ⟨place, transition, isTransition, ?_⟩
    rwa [Nat.zero_add, Option.or_none]

private theorem mem_names_before_iff {index : Nat} {name : String} {rules : List LifecycleRule} :
    name ∈ (rules.take index).reverse.filterMap name? ↔
      ∃ (place : Nat) (earlier : LifecycleRule), place < index ∧ rules[place]? = some earlier ∧
        earlier.name? = some name := by
  rw [List.mem_filterMap]
  simp only [List.mem_reverse]
  constructor
  · rintro ⟨earlier, member, named⟩
    rcases List.getElem?_of_mem member with ⟨place, found⟩
    rw [List.getElem?_take, Option.ite_none_right_eq_some] at found
    exact ⟨place, earlier, found.1, found.2, named⟩
  · rintro ⟨place, earlier, before, found, named⟩
    have inFront : (rules.take index)[place]? = some earlier := by
      rwa [List.getElem?_take, if_pos before]
    exact ⟨earlier, List.mem_of_getElem? inFront, named⟩

/-- A name is reported as taken at every rule but the first that has it. -/
theorem exists_duplicate_iff {index : Nat} {name : String} {rules : List LifecycleRule} :
    (∃ error ∈ listErrors [] 0 rules, error.path = (pathAt index).field "id" ∧
        error.problem = .ruleIdDuplicate name) ↔
      ∃ rule, rules[index]? = some rule ∧ rule.name? = some name ∧
        ∃ (place : Nat) (earlier : LifecycleRule), place < index ∧ rules[place]? = some earlier ∧
          earlier.name? = some name := by
  have inRule : ∀ {error : FieldError}, error.path = (pathAt index).field "id" →
      (pathAt index).IsAbove error := fun atId =>
    (show ((pathAt index).field "id").IsAbove _ from Path.isAbove_of_eq atId).of_field (by decide)
  constructor
  · rintro ⟨error, member, atId, isDuplicate⟩
    rcases (mem_listErrors_iff_of_isAbove (inRule atId)).mp member with ⟨rule, found, own | duplicate⟩
    · rw [problem_of_mem_errors own atId] at isDuplicate
      contradiction
    · rcases mem_duplicateErrors_iff.mp duplicate with ⟨other, named, taken, rfl⟩
      cases isDuplicate
      exact ⟨rule, found, named, mem_names_before_iff.mp taken⟩
  · rintro ⟨rule, found, named, taken⟩
    refine ⟨{ path := (pathAt index).field "id", problem := .ruleIdDuplicate name }, ?_, rfl, rfl⟩
    rw [mem_listErrors_iff_of_isAbove (inRule rfl)]
    refine ⟨rule, found, .inr (mem_duplicateErrors_iff.mpr ?_)⟩
    exact ⟨name, named, mem_names_before_iff.mpr taken, rfl⟩

/-- A transition is reported in one of its fields exactly if the errors of that transition, after the
last days before it that are a count, hold one at the field. -/
theorem exists_at_transition_iff {index place : Nat} {schedule : Schedule} {name : String}
    {rules : List LifecycleRule} (plain : IsPlainName name) :
    (∃ error ∈ listErrors [] 0 rules,
        error.path = (transitionPath index schedule place).field name) ↔
      ∃ rule transition, rules[index]? = some rule ∧
        (schedule.transitions rule)[place]? = some transition ∧
        ∃ error ∈ transition.errors (transitionPath index schedule place)
            (Transition.lastDays? ((schedule.transitions rule).take place)),
          error.path = (transitionPath index schedule place).field name := by
  have inTransition : ∀ {error : FieldError},
      error.path = (transitionPath index schedule place).field name →
        (transitionPath index schedule place).IsAbove error := fun atPlace =>
    (show ((transitionPath index schedule place).field name).IsAbove _ from
      Path.isAbove_of_eq atPlace).of_field plain
  constructor
  · rintro ⟨error, member, atPlace⟩
    rcases (mem_listErrors_iff_of_transition (inTransition atPlace)).mp member with
      ⟨rule, transition, found, isTransition, own⟩
    exact ⟨rule, transition, found, isTransition, error, own, atPlace⟩
  · rintro ⟨rule, transition, found, isTransition, error, own, atPlace⟩
    refine ⟨error, ?_, atPlace⟩
    exact (mem_listErrors_iff_of_transition (inTransition atPlace)).mpr
      ⟨rule, transition, found, isTransition, own⟩

/-! ## Texts of places -/

theorem isPlain_pathAt (index : Nat) : (pathAt index).IsPlain :=
  (Path.isPlain_ofRoot (by decide)).item index

theorem isPlain_transitionPath (index : Nat) (schedule : Schedule) (place : Nat) :
    (transitionPath index schedule place).IsPlain :=
  ((isPlain_pathAt index).field schedule.isPlainName_field).item place

private theorem idPath_text (index : Nat) :
    ((pathAt index).field "id").text = s!"lifecycle_rules[{index}].id" :=
  Path.text_field_item "lifecycle_rules" index "id"

private theorem transitionPath_text (index : Nat) (schedule : Schedule) (place : Nat)
    (name : String) :
    ((transitionPath index schedule place).field name).text =
      "lifecycle_rules[" ++ toString index ++ "]." ++ schedule.field ++ "[" ++ toString place ++
        ("]." ++ name) := by
  rw [transitionPath, pathAt, Path.text_field, Path.text_item, Path.text_field_item,
    ← String.toList_inj]
  simp

end LifecycleRule

namespace Configuration

open LifecycleRule

/-- Among the errors of the lifecycle rules a place is named by its text. -/
private theorem field_eq_text_iff_of_lifecycle {configuration : Configuration} {error : FieldError}
    (member : error ∈ configuration.lifecycleErrors) {path : Path} (plain : path.IsPlain) :
    error.field = path.text ↔ error.path = path :=
  field_eq_text_iff (mem_errors_of_mem_lifecycleErrors member false) plain

/-- Of lifecycle rules validation finds nothing wrong exactly if each has a name of its own, is
switched on or off, and has orderly lists of transitions. The days of a transition are reported
exactly if they are no count or do not come after the nearest earlier days that are a count, and the
name of a rule exactly if an earlier rule has it. -/
theorem lifecycle_judged (configuration : Configuration) :
    (configuration.lifecycleErrors = [] ↔
      (∃ names : List String,
        configuration.lifecycleRules.map LifecycleRule.id = names.map Tree.str ∧ names.Nodup ∧
          ∀ name ∈ names, name ≠ "") ∧
      ∀ rule ∈ configuration.lifecycleRules, rule.IsSound) ∧
    (∀ (index : Nat) (schedule : Schedule) (place : Nat),
      (∃ error ∈ configuration.lifecycleErrors,
          error.field = s!"lifecycle_rules[{index}].{schedule.field}[{place}].after_days") ↔
        ∃ rule transition, configuration.lifecycleRules[index]? = some rule ∧
          (schedule.transitions rule)[place]? = some transition ∧
          Transition.IsOutOfPlace ((schedule.transitions rule).take place) transition) ∧
    ∀ (index : Nat) (name : String),
      (∃ error ∈ configuration.lifecycleErrors, error.field = s!"lifecycle_rules[{index}].id" ∧
          error.problem = .ruleIdDuplicate name) ↔
        name ≠ "" ∧
          (∃ rule, configuration.lifecycleRules[index]? = some rule ∧ rule.id = .str name) ∧
          ∃ (place : Nat) (earlier : LifecycleRule), place < index ∧
            configuration.lifecycleRules[place]? = some earlier ∧ earlier.id = .str name := by
  refine ⟨?_, fun index schedule place => ?_, fun index name => ?_⟩
  · rw [lifecycleErrors, LifecycleRule.listErrors_eq_nil_iff]
    simp only [List.not_mem_nil, not_false_eq_true, and_true]
  · have text : s!"lifecycle_rules[{index}].{schedule.field}[{place}].after_days" =
        ((transitionPath index schedule place).field "after_days").text :=
      (transitionPath_text index schedule place "after_days").symm
    have plain : ((transitionPath index schedule place).field "after_days").IsPlain :=
      (isPlain_transitionPath index schedule place).field (by decide)
    have atDays := @exists_at_transition_iff index place schedule "after_days"
      configuration.lifecycleRules (by decide)
    simp only [Transition.exists_at_afterDays_iff] at atDays
    rw [text, ← atDays]
    exact exists_congr fun error => and_congr_right fun member =>
      field_eq_text_iff_of_lifecycle member plain
  · have plain : ((pathAt index).field "id").IsPlain := (isPlain_pathAt index).field (by decide)
    have duplicate := @exists_duplicate_iff index name configuration.lifecycleRules
    simp only [name?_eq_some_iff] at duplicate
    rw [← idPath_text]
    constructor
    · rintro ⟨error, member, atText, isDuplicate⟩
      have atPlace := (field_eq_text_iff_of_lifecycle member plain).mp atText
      rcases duplicate.mp ⟨error, member, atPlace, isDuplicate⟩ with
        ⟨rule, found, ⟨isName, nonempty⟩, place, earlier, before, isEarlier, same, -⟩
      exact ⟨nonempty, ⟨rule, found, isName⟩, place, earlier, before, isEarlier, same⟩
    · rintro ⟨nonempty, ⟨rule, found, isName⟩, place, earlier, before, isEarlier, same⟩
      rcases duplicate.mpr ⟨rule, found, ⟨isName, nonempty⟩, place, earlier, before, isEarlier, same,
        nonempty⟩ with ⟨error, member, atPlace, isDuplicate⟩
      exact ⟨error, member, congrArg Path.text atPlace, isDuplicate⟩

/-- The storage class of a transition is reported, whatever else is wrong, exactly if it is not known
and the days of the transition are a count. -/
theorem storageClass_reported_iff (configuration : Configuration) (strict : Bool)
    (index : Nat) (schedule : Schedule) (place : Nat) :
    (∃ error ∈ configuration.errors strict,
        error.field = s!"lifecycle_rules[{index}].{schedule.field}[{place}].storage_class") ↔
      ∃ rule transition, configuration.lifecycleRules[index]? = some rule ∧
        (schedule.transitions rule)[place]? = some transition ∧
        ¬transition.HasKnownClass ∧ ∃ days, transition.HasDays days := by
  have text : s!"lifecycle_rules[{index}].{schedule.field}[{place}].storage_class" =
      ((transitionPath index schedule place).field "storage_class").text :=
    (transitionPath_text index schedule place "storage_class").symm
  have plain : ((transitionPath index schedule place).field "storage_class").IsPlain :=
    (isPlain_transitionPath index schedule place).field (by decide)
  have atClass := @exists_at_transition_iff index place schedule "storage_class"
    configuration.lifecycleRules (by decide)
  simp only [Transition.exists_at_storageClass_iff] at atClass
  rw [text, ← atClass]
  constructor
  · rintro ⟨error, member, atText⟩
    have atPlace := (field_eq_text_iff member plain).mp atText
    exact ⟨error, (mem_errors_iff_of_root (congrArg Path.root atPlace)).mp member, atPlace⟩
  · rintro ⟨error, member, atPlace⟩
    exact ⟨error, mem_errors_of_mem_lifecycleErrors member strict, congrArg Path.text atPlace⟩

/-- A rule whose only transition comes before the start and goes to a class that is not known. -/
private def rewound : LifecycleRule :=
  { id := .str "rewind", enabled := .bool true, keyPrefix := .str ""
    transitions := [{ afterDays := .int (-1), storageClass := .str "TAPE" }]
    expirationDays := .null, noncurrentTransitions := [], noncurrentExpirationDays := .null
    abortUploadDays := .null }

private def rewinding : Configuration :=
  { name := .str "my-data-bucket", environment := .str "prod"
    encryptionKey := .str
      "arn:aws:kms:us-east-1:123456789012:key/12345678-1234-1234-1234-123456789012"
    loggingBucket := .null, loggingPrefix := .null, lockEnabled := .bool false, lock := none
    trustedPrincipals := [], trustedActions := none, lifecycleRules := [rewound], statements := []
    corsRules := [], tags := [] }

/-- Days that are no count hide that the storage class of the same transition is not known. -/
theorem storageClass_hidden :
    ¬∀ (configuration : Configuration) (strict : Bool) (index : Nat) (schedule : Schedule)
        (place : Nat) (rule : LifecycleRule) (transition : Transition),
      configuration.lifecycleRules[index]? = some rule →
        (schedule.transitions rule)[place]? = some transition → ¬transition.HasKnownClass →
          ∃ error ∈ configuration.errors strict,
            error.field = s!"lifecycle_rules[{index}].{schedule.field}[{place}].storage_class" := by
  intro reported
  rcases reported rewinding false 0 .current 0 rewound _ rfl rfl (by decide) with
    ⟨error, member, atClass⟩
  have only : rewinding.errors false =
      [{ path := (transitionPath 0 .current 0).field "after_days"
         problem := .transitionDays (.int (-1)) }] := by
    decide +kernel
  rw [only] at member
  cases List.mem_singleton.mp member
  exact absurd atClass (by decide +kernel)

end Configuration

end BucketGuard
