import BucketGuard.Proofs.Path
import BucketGuard.Proofs.Reading

namespace BucketGuard

/-! The two ways to read a part of a document agree. What goes to a list of errors, where one is
given, rejects the part where none is. Each of the errors is below the path of the part, and moves
with it. -/

/-! ## Errors as they are seen from a path -/

/-- A problem some steps down from where one looks. -/
structure ShapeFault where
  steps : List Step
  problem : Problem

namespace ShapeFault

/-- The error that the fault is, seen from a path. -/
def seenFrom (path : Path) (fault : ShapeFault) : FieldError :=
  { path := path.below fault.steps, problem := fault.problem }

/-- What the text of the error has behind that of the path. -/
def text (fault : ShapeFault) : String := String.join (fault.steps.map Step.text)

theorem field_seenFrom (path : Path) (fault : ShapeFault) :
    (fault.seenFrom path).field = path.text ++ fault.text := by
  rw [FieldError.field, seenFrom, Path.below, Path.text, List.map_append, String.join_append,
    ← String.append_assoc]
  rfl

theorem text_ne_empty {fault : ShapeFault} (deep : 0 < fault.steps.length) : fault.text ≠ "" := by
  cases steps : fault.steps with
  | nil => simp [steps] at deep
  | cons step rest =>
      cases step with
      | field name => simp [text, steps, Step.text]
      | item index => simp [text, steps, Step.text]

end ShapeFault

namespace Shaped

variable {α β : Type}

/-- The list that a part is collected onto goes through the steps of its reading. -/
theorem collected_bind (earlier : List FieldError) (first : Shaped α) (next : α → Shaped β) :
    (first >>= next).collected earlier =
      (next (first.collected earlier).1).collected (first.collected earlier).2 := by
  simp only [collected, bind, List.append_assoc]

/-- The reading is the same from every path, with faults that are some steps below it. -/
def IsRelative (depth : Nat) (read : Path → Shaped α) : Prop :=
  ∃ (value : α) (faults : List ShapeFault), (∀ fault ∈ faults, depth ≤ fault.steps.length) ∧
    ∀ path, read path = { value, errors := faults.map (·.seenFrom path) }

namespace IsRelative

variable {depth : Nat}

theorem sound (value : α) : IsRelative depth fun _ => Shaped.sound value :=
  ⟨value, [], List.forall_mem_nil _, fun _ => rfl⟩

theorem flawed (value : α) (problem : Problem) :
    IsRelative 0 fun path => Shaped.flawed value path problem :=
  ⟨value, [{ steps := [], problem }], fun _ _ => Nat.zero_le _, fun path => by
    simp [Shaped.flawed, ShapeFault.seenFrom, Path.below]⟩

theorem weaken {read : Path → Shaped α} (relative : IsRelative depth read) {lower : Nat}
    (isLower : lower ≤ depth) : IsRelative lower read := by
  rcases relative with ⟨value, faults, deep, isRead⟩
  exact ⟨value, faults, fun fault member => Nat.le_trans isLower (deep fault member), isRead⟩

theorem bind {first : Path → Shaped α} {next : α → Path → Shaped β}
    (ofFirst : IsRelative depth first) (ofNext : ∀ value, IsRelative depth (next value)) :
    IsRelative depth fun path => first path >>= fun value => next value path := by
  rcases ofFirst with ⟨value, faults, deep, isFirst⟩
  rcases ofNext value with ⟨result, others, othersDeep, isNext⟩
  refine ⟨result, faults ++ others, List.forall_mem_append.mpr ⟨deep, othersDeep⟩, fun path => ?_⟩
  simp only [isFirst path, Bind.bind, isNext path, List.map_append]

theorem below {read : Path → Shaped α} (relative : IsRelative depth read) (steps : List Step) :
    IsRelative (steps.length + depth) fun path => read (path.below steps) := by
  rcases relative with ⟨value, faults, deep, isRead⟩
  refine ⟨value, faults.map fun fault => { fault with steps := steps ++ fault.steps }, ?_, ?_⟩
  · intro fault member
    rcases List.mem_map.mp member with ⟨inner, isInner, rfl⟩
    have innerDeep := deep inner isInner
    rw [List.length_append]
    omega
  · intro path
    simp only [isRead, List.map_map, Function.comp_def, ShapeFault.seenFrom, Path.below,
      List.append_assoc]

end IsRelative

/-- Reading in the two modes, from every path. There are one value and the faults of one reading,
each with a text that goes on from the text of the path. Where a list is given, the errors come
behind it; where none is, they reject what is read, unless there are none. -/
def ModesAgree (read : Path → Shaped α) : Prop :=
  ∃ (value : α) (faults : List (String × Problem)), (∀ fault ∈ faults, fault.1 ≠ "") ∧
    ∀ path, ∃ errors : List FieldError,
      errors.map (fun error => (error.field, error.problem)) =
          faults.map (fun fault => (path.text ++ fault.1, fault.2)) ∧
        (∀ earlier, (read path).reported (some earlier) = .ok (value, earlier ++ errors)) ∧
        (errors = [] → (read path).reported none = .ok (value, [])) ∧
        ∀ rejection, errors = rejection.errors → (read path).reported none = .error rejection

theorem IsRelative.modesAgree {read : Path → Shaped α} (relative : IsRelative 1 read) :
    ModesAgree read := by
  rcases relative with ⟨value, faults, deep, isRead⟩
  refine ⟨value, faults.map fun fault => (fault.text, fault.problem), ?_, fun path =>
    ⟨faults.map (·.seenFrom path), ?_, ?_, ?_, ?_⟩⟩
  · intro fault member
    rcases List.mem_map.mp member with ⟨inner, isInner, rfl⟩
    exact ShapeFault.text_ne_empty (deep inner isInner)
  · rw [List.map_map, List.map_map]
    refine List.map_congr_left fun fault _ => ?_
    exact congrArg (·, fault.problem) (fault.field_seenFrom path)
  · intro earlier
    rw [isRead]
    rfl
  · intro none
    rw [isRead, none]
    rfl
  · intro rejection same
    rw [isRead, same]
    rfl

end Shaped

namespace Specification

open Shaped (IsRelative)

/-! ## Sections and lists -/

theorem fieldsAt_relative (fields : Fields) (key : String) :
    IsRelative 0 fun path => fieldsAt fields key path := by
  simp only [fieldsAt]
  cases Json.field fields key with
  | leaf scalar =>
      cases scalar with
      | null => exact .sound []
      | _ => exact .flawed [] _
  | arr items => exact .flawed [] _
  | obj members => exact .sound members

/-- The objects of a list without their places. -/
def membersFrom (path : Path) (index : Nat) (items : List Json) : Shaped (List Fields) :=
  { value := (objectsFrom path index items).value.map Prod.snd
    errors := (objectsFrom path index items).errors }

def membersAt (fields : Fields) (key : String) (path : Path) : Shaped (List Fields) :=
  { value := (objectsAt fields key path).value.map Prod.snd
    errors := (objectsAt fields key path).errors }

theorem membersFrom_relative (items : List Json) (index : Nat) :
    IsRelative 0 fun path => membersFrom path index items := by
  induction items generalizing index with
  | nil => exact .sound []
  | cons item rest induction =>
      by_cases isObject : item.kind = .obj
      · rcases Json.exists_obj_of_kind isObject with ⟨members, rfl⟩
        have read (path : Path) : membersFrom path index (.obj members :: rest) =
            membersFrom path (index + 1) rest >>= fun others => .sound (members :: others) := rfl
        simp only [read]
        exact .bind (induction (index + 1)) fun others => .sound (members :: others)
      · have read (path : Path) : membersFrom path index (item :: rest) =
            Shaped.flawed () (path.item index) (.objectExpected item.kind) >>= fun _ =>
              membersFrom path (index + 1) rest := by
          rw [membersFrom, objectsFrom_of_noObject isObject]
          rfl
        have ofItem : IsRelative 1 fun path =>
            Shaped.flawed () (path.item index) (.objectExpected item.kind) :=
          (IsRelative.flawed () _).below [.item index]
        simp only [read]
        exact .bind (ofItem.weaken (Nat.zero_le 1)) fun _ => induction (index + 1)

theorem membersAt_relative (fields : Fields) (key : String) :
    IsRelative 0 fun path => membersAt fields key path := by
  simp only [membersAt, objectsAt]
  cases Json.field fields key with
  | leaf scalar =>
      cases scalar with
      | null => exact .sound []
      | _ => exact .flawed [] _
  | arr items => exact membersFrom_relative items 0
  | obj members => exact .flawed [] _

theorem transitionsAt_relative (fields : Fields) (key : String) :
    IsRelative 0 fun path => transitionsAt fields key path := by
  have read (path : Path) : transitionsAt fields key path =
      membersAt fields key path >>= fun members => .sound (members.map transition) := by
    simp [transitionsAt, membersAt, bind, pure, Shaped.sound]
  simp only [read]
  exact .bind (membersAt_relative fields key) fun _ => .sound _

/-! ## Rules and statements -/

theorem lifecycleRule_relative (fields : Fields) :
    IsRelative 1 fun path => lifecycleRule path fields := by
  unfold lifecycleRule
  refine .bind ((fieldsAt_relative fields "expiration").below [.field _]) fun expiration => ?_
  refine .bind ((fieldsAt_relative fields _).below [.field _]) fun noncurrentExpiration => ?_
  refine .bind ((fieldsAt_relative fields _).below [.field _]) fun abortUpload => ?_
  refine .bind ((transitionsAt_relative fields _).below [.field _]) fun transitions => ?_
  refine .bind ((transitionsAt_relative fields _).below [.field _]) fun transitions => ?_
  exact .sound _

theorem statement_relative (fields : Fields) :
    IsRelative 1 fun path => statement path fields := by
  have read (path : Path) : statement path fields =
      membersAt fields "principals" (path.field "principals") >>= fun principals =>
        membersAt fields "conditions" (path.field "conditions") >>= fun conditions => .sound {
          sid := Json.field fields "sid"
          effect := fieldOr fields "effect" (.str "Allow")
          principals := principals.map principalSet
          actions := asList (Json.field fields "actions")
          resources := asList (Json.field fields "resources")
          conditions := conditions.map condition } := by
    simp [statement, membersAt, bind, pure, Shaped.sound]
  simp only [read]
  refine .bind ((membersAt_relative fields _).below [.field _]) fun principals => ?_
  refine .bind ((membersAt_relative fields _).below [.field _]) fun conditions => ?_
  exact .sound _

/-- Raising and collecting agree, for rules and for statements. -/
theorem raising_agrees_with_collecting (fields : Fields) :
    Shaped.ModesAgree (fun path => lifecycleRule path fields) ∧
      Shaped.ModesAgree (fun path => statement path fields) :=
  ⟨(lifecycleRule_relative fields).modesAgree, (statement_relative fields).modesAgree⟩

end Specification

end BucketGuard
