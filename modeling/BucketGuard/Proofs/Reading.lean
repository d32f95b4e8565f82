import BucketGuard.Proofs.Json.Alike
import BucketGuard.Proofs.Outline
import BucketGuard.Specification

namespace BucketGuard

/-! Reading specifications that agree. What is read from them has the same errors of shape and one
outline, whatever the order of the members. -/

/-! ## Shaped values in step -/

namespace Shaped

/-- Two readings with the same errors, of values that are related. -/
structure InStep {α β : Type} (related : α → β → Prop) (left : Shaped α) (right : Shaped β) :
    Prop where
  value : related left.value right.value
  errors : left.errors = right.errors

namespace InStep

variable {α β γ δ : Type} {related : α → β → Prop} {further : γ → δ → Prop}

theorem sound {left : α} {right : β} (values : related left right) :
    InStep related (.sound left) (.sound right) := ⟨values, rfl⟩

theorem flawed {left : α} {right : β} (values : related left right) (path : Path)
    (problem : Problem) : InStep related (.flawed left path problem) (.flawed right path problem) :=
  ⟨values, rfl⟩

theorem bind {left : Shaped α} {right : Shaped β} {next : α → Shaped γ} {other : β → Shaped δ}
    (first : InStep related left right)
    (second : ∀ value otherValue, related value otherValue →
      InStep further (next value) (other otherValue)) :
    InStep further (left >>= next) (right >>= other) := by
  have second := second _ _ first.value
  exact ⟨second.value, by simp only [Bind.bind, first.errors, second.errors]⟩

theorem each {read : α → Shaped γ} {other : β → Shaped δ} {lefts : List α} {rights : List β}
    (items : List.Forall₂ related lefts rights)
    (inStep : ∀ left right, related left right → InStep further (read left) (other right)) :
    InStep (List.Forall₂ further) (Shaped.each read lefts) (Shaped.each other rights) := by
  induction items with
  | nil => exact ⟨.nil, rfl⟩
  | cons first _ induction =>
      have first := inStep _ _ first
      refine ⟨.cons first.value induction.value, ?_⟩
      simp only [Shaped.each, List.flatMap_cons, first.errors]
      exact congrArg _ induction.errors

end InStep

end Shaped

namespace Json

/-- The items of a list, none for any other value. -/
def items : Json → List Json
  | .arr items => items
  | _ => []

theorem exists_obj_of_kind {value : Json} (isObject : value.kind = .obj) :
    ∃ members, value = .obj members := by
  cases value with
  | leaf scalar => cases scalar <;> contradiction
  | arr items => contradiction
  | obj members => exact ⟨members, rfl⟩

end Json

namespace Specification

open Json (Agree)
open Shaped (InStep)

/-! ## Sections and lists in step -/

/-- The error that a value of a wrong kind is reported with. Null stands for anything. -/
def kindErrors (expected : Kind) (problem : Kind → Problem) (path : Path) (value : Json) :
    List FieldError :=
  path.flag (value.kind ≠ .null ∧ value.kind ≠ expected) (problem value.kind)

theorem fieldsAt_eq (fields : Fields) (key : String) (path : Path) :
    fieldsAt fields key path =
      { value := (Json.field fields key).members
        errors := kindErrors .obj .objectExpected path (Json.field fields key) } := by
  rw [fieldsAt]
  cases Json.field fields key with
  | leaf scalar => cases scalar <;> rfl
  | arr items => rfl
  | obj members => rfl

theorem objectsAt_eq (fields : Fields) (key : String) (path : Path) :
    objectsAt fields key path =
      { value := (objectsFrom path 0 (Json.field fields key).items).value
        errors := kindErrors .arr .listExpected path (Json.field fields key) ++
          (objectsFrom path 0 (Json.field fields key).items).errors } := by
  rw [objectsAt]
  cases Json.field fields key with
  | leaf scalar => cases scalar <;> rfl
  | arr items => rfl
  | obj members => rfl

theorem objectsFrom_of_noObject {item : Json} (noObject : item.kind ≠ .obj) (path : Path)
    (index : Nat) (rest : List Json) :
    objectsFrom path index (item :: rest) =
      (Shaped.flawed () (path.item index) (.objectExpected item.kind) >>= fun _ =>
        objectsFrom path (index + 1) rest) := by
  cases item with
  | obj members => exact absurd rfl noObject
  | _ => rfl

/-- Values of one kind, with related members. -/
structure Matches (related : Fields → Fields → Prop) (left right : Json) : Prop where
  kind : left.kind = right.kind
  members : related left.members right.members

/-- Related objects at one place. -/
def Placed (related : Fields → Fields → Prop) (left right : Path × Fields) : Prop :=
  left.1 = right.1 ∧ related left.2 right.2

section Matching

variable {related : Fields → Fields → Prop} {left right : Fields} {key : String}

theorem fieldsAt_inStep (values : Matches related (Json.field left key) (Json.field right key))
    (path : Path) : InStep related (fieldsAt left key path) (fieldsAt right key path) := by
  rw [fieldsAt_eq, fieldsAt_eq]
  exact ⟨values.members, by rw [kindErrors, kindErrors, values.kind]⟩

theorem objectsFrom_inStep (path : Path) (index : Nat) {lefts rights : List Json}
    (items : List.Forall₂ (Matches related) lefts rights) :
    InStep (List.Forall₂ (Placed related)) (objectsFrom path index lefts)
      (objectsFrom path index rights) := by
  induction items generalizing index with
  | nil => exact .sound .nil
  | @cons left right _ _ first _ induction =>
      rcases first with ⟨kind, members⟩
      by_cases isObject : right.kind = .obj
      · rcases Json.exists_obj_of_kind isObject with ⟨_, rfl⟩
        rcases Json.exists_obj_of_kind (kind.trans isObject) with ⟨_, rfl⟩
        exact .bind (induction _) fun _ _ others => .sound (.cons ⟨rfl, members⟩ others)
      · rw [objectsFrom_of_noObject isObject, objectsFrom_of_noObject (kind ▸ isObject), kind]
        exact .bind (.flawed rfl _ _) fun _ _ _ => induction _

theorem objectsAt_inStep (kind : (Json.field left key).kind = (Json.field right key).kind)
    (items : List.Forall₂ (Matches related) (Json.field left key).items
      (Json.field right key).items) (path : Path) :
    InStep (List.Forall₂ (Placed related)) (objectsAt left key path) (objectsAt right key path) := by
  have objects := objectsFrom_inStep path 0 items
  rw [objectsAt_eq, objectsAt_eq]
  exact ⟨objects.value, by rw [kindErrors, kindErrors, kind, objects.errors]⟩

end Matching

/-! ## Agreement -/

/-- Members that agree as objects. -/
abbrev FieldsAgree (left right : Fields) : Prop := Agree (.obj left) (.obj right)

variable {left right : Fields}

theorem fieldsAgree_nil : FieldsAgree [] [] := ⟨rfl, rfl⟩

theorem matches_of_agree {left right : Json} (agree : Agree left right) :
    Matches FieldsAgree left right := by
  rcases agree.cases with ⟨value, rfl, rfl⟩ | ⟨lefts, rights, rfl, rfl, -⟩ |
    ⟨lefts, rights, rfl, rfl⟩
  · exact ⟨rfl, fieldsAgree_nil⟩
  · exact ⟨rfl, fieldsAgree_nil⟩
  · exact ⟨rfl, agree⟩

theorem fieldsAt_agree (agree : FieldsAgree left right) (key : String) (path : Path) :
    InStep FieldsAgree (fieldsAt left key path) (fieldsAt right key path) :=
  fieldsAt_inStep (matches_of_agree (agree.field key)) path

theorem objectsAt_agree (agree : FieldsAgree left right) (key : String) (path : Path) :
    InStep (List.Forall₂ (Placed FieldsAgree)) (objectsAt left key path)
      (objectsAt right key path) := by
  refine objectsAt_inStep (matches_of_agree (agree.field key)).kind ?_ path
  rcases (agree.field key).cases with ⟨value, isLeft, isRight⟩ |
    ⟨lefts, rights, isLeft, isRight, items⟩ | ⟨lefts, rights, isLeft, isRight⟩
  · rw [isLeft, isRight]
    exact .nil
  · rw [isLeft, isRight]
    exact items.imp fun _ _ => matches_of_agree
  · rw [isLeft, isRight]
    exact .nil

/-- Parts of related items, if they are the same in any two such items. -/
private theorem map_eq_of_forall₂ {α β : Type} {related : α → α → Prop} (part : α → β)
    {lefts rights : List α} (same : ∀ left right, related left right → part left = part right)
    (items : List.Forall₂ related lefts rights) : lefts.map part = rights.map part := by
  induction items with
  | nil => rfl
  | cons first _ induction => rw [List.map_cons, List.map_cons, same _ _ first, induction]

theorem asList_ordered {left right : Json} (agree : Agree left right) :
    (asList left).map Json.ordered = (asList right).map Json.ordered := by
  have same := agree.same
  rcases agree.cases with ⟨value, rfl, rfl⟩ | ⟨lefts, rights, rfl, rfl, -⟩ |
    ⟨lefts, rights, rfl, rfl⟩
  · rfl
  · rw [Json.ordered, Json.ordered, Json.orderedItems_eq_map, Json.orderedItems_eq_map] at same
    exact Tree.arr.inj same
  · exact congrArg ([·]) same

theorem fieldOr_agree (agree : FieldsAgree left right) (key : String) (default : Scalar) :
    Agree (fieldOr left key (.leaf default)) (fieldOr right key (.leaf default)) := by
  rw [fieldOr, fieldOr]
  rcases agree.get? key with ⟨isLeft, isRight⟩ | ⟨value, other, isLeft, isRight, agree⟩
  · rw [isLeft, isRight]
    exact Agree.leaf default
  · rwa [isLeft, isRight]

/-! ## Lifecycle rules -/

theorem transition_ordered (agree : FieldsAgree left right) :
    (transition left).ordered = (transition right).ordered := by
  simp only [transition, Transition.ordered, (agree.field _).same]

theorem transitionsAt_inStep (agree : FieldsAgree left right) (key : String) (path : Path) :
    InStep (fun first second => first.map Transition.ordered = second.map Transition.ordered)
      (transitionsAt left key path) (transitionsAt right key path) := by
  refine .bind (objectsAt_agree agree key path) fun lefts rights objects => .sound ?_
  rw [List.map_map, List.map_map]
  exact map_eq_of_forall₂ (fun object => (transition object.2).ordered)
    (fun _ _ placed => transition_ordered placed.2) objects

theorem ruleEnabled_ordered (agree : FieldsAgree left right) :
    (ruleEnabled left).ordered = (ruleEnabled right).ordered := by
  rw [ruleEnabled, ruleEnabled]
  rcases agree.get? "enabled" with ⟨isLeft, isRight⟩ | ⟨value, other, isLeft, isRight, given⟩
  · rw [isLeft, isRight]
    have status := fieldOr_agree agree "status" (.str "Enabled")
    have same := status.same
    rcases status.cases with ⟨value, isLeft, isRight⟩ | ⟨lefts, rights, isLeft, isRight, -⟩ |
      ⟨lefts, rights, isLeft, isRight⟩
    · rw [isLeft, isRight]
    · rw [isLeft, isRight] at same ⊢
      exact same
    · rw [isLeft, isRight] at same ⊢
      exact same
  · rw [isLeft, isRight]
    exact given.same

theorem lifecycleRule_inStep {left right : Path × Fields} (placed : Placed FieldsAgree left right) :
    InStep (fun first second => first.ordered = second.ordered)
      (lifecycleRule left.1 left.2) (lifecycleRule right.1 right.2) := by
  rcases placed with ⟨place, agree⟩
  rw [place]
  refine .bind (fieldsAt_agree agree _ _) fun _ _ expiration => ?_
  refine .bind (fieldsAt_agree agree _ _) fun _ _ noncurrentExpiration => ?_
  refine .bind (fieldsAt_agree agree _ _) fun _ _ abortUpload => ?_
  refine .bind (transitionsAt_inStep agree _ _) fun _ _ transitions => ?_
  refine .bind (transitionsAt_inStep agree _ _) fun _ _ noncurrentTransitions => .sound ?_
  have keyPrefix := agree.field "prefix"
  have isGiven : (Json.field left.2 "prefix").isGiven =
      (Json.field right.2 "prefix").isGiven := by
    rw [← Json.isGiven_ordered, keyPrefix.same, Json.isGiven_ordered]
  simp only [LifecycleRule.ordered, (fieldOr_agree agree _ _).same, ruleEnabled_ordered agree,
    isGiven, apply_ite Json.ordered, keyPrefix.same, transitions, (expiration.field _).same,
    noncurrentTransitions, (noncurrentExpiration.field _).same, (abortUpload.field _).same]

/-! ## Statements -/

theorem principalSet_ordered (agree : FieldsAgree left right) :
    (principalSet left).ordered = (principalSet right).ordered := by
  simp only [principalSet, PrincipalSet.ordered, (fieldOr_agree agree _ _).same,
    asList_ordered (agree.field _)]

theorem condition_outline (agree : FieldsAgree left right) :
    (condition left).outline = (condition right).outline := by
  simp only [condition, Condition.outline, Condition.ordered, (fieldOr_agree agree _ _).same]

theorem statement_inStep {left right : Path × Fields} (placed : Placed FieldsAgree left right) :
    InStep (fun first second => first.outline = second.outline)
      (statement left.1 left.2) (statement right.1 right.2) := by
  rcases placed with ⟨place, agree⟩
  rw [place]
  refine .bind (objectsAt_agree agree _ _) fun _ _ principals => ?_
  refine .bind (objectsAt_agree agree _ _) fun _ _ conditions => .sound ?_
  have principals := map_eq_of_forall₂ (fun object => (principalSet object.2).ordered)
    (fun _ _ placed => principalSet_ordered placed.2) principals
  have conditions := map_eq_of_forall₂ (fun object => (condition object.2).outline)
    (fun _ _ placed => condition_outline placed.2) conditions
  simp only [Statement.outline, Statement.ordered, (agree.field _).same, (fieldOr_agree agree _ _).same,
    asList_ordered (agree.field _), List.map_map, Function.comp_def, principals, conditions]

/-! ## Whole configurations -/

theorem corsRule_ordered (agree : FieldsAgree left right) :
    (corsRule left).ordered = (corsRule right).ordered := by
  simp only [corsRule, CorsRule.ordered, asList_ordered (agree.field _), (agree.field _).same]

theorem objectLock_ordered (agree : FieldsAgree left right) :
    (objectLock left).map ObjectLock.ordered = (objectLock right).map ObjectLock.ordered := by
  have isSome (key : String) :
      (Members.get? left key).isSome = (Members.get? right key).isSome := by
    rcases agree.get? key with ⟨isLeft, isRight⟩ | ⟨value, other, isLeft, isRight, -⟩
    · rw [isLeft, isRight]
    · rw [isLeft, isRight]
      rfl
  simp only [objectLock, isSome, apply_ite (Option.map ObjectLock.ordered), Option.map_some,
    ObjectLock.ordered, (agree.field _).same]

/-- The actions of trusted principals, as they are read. -/
def actionsAt (fields : Fields) : Option (List Json) :=
  match Json.field fields "actions" with
  | .null => none
  | actions => some (asList actions)

private theorem actionsAt_ordered (agree : FieldsAgree left right) :
    (actionsAt left).map (List.map Json.ordered) = (actionsAt right).map (List.map Json.ordered) := by
  have actions := asList_ordered (agree.field "actions")
  rw [actionsAt, actionsAt]
  rcases (agree.field "actions").cases with ⟨value, isLeft, isRight⟩ |
    ⟨lefts, rights, isLeft, isRight, -⟩ | ⟨lefts, rights, isLeft, isRight⟩
  · rw [isLeft, isRight]
  · rw [isLeft, isRight] at actions ⊢
    exact congrArg some actions
  · rw [isLeft, isRight] at actions ⊢
    exact congrArg some actions

/-- Specifications that agree are read with the same errors and as configurations of one outline. -/
theorem shapedConfiguration_inStep (agree : FieldsAgree left right) :
    InStep (fun first second => first.outline = second.outline)
      (shapedConfiguration left) (shapedConfiguration right) := by
  refine .bind (fieldsAt_agree agree _ _) fun _ _ encryption => ?_
  refine .bind (fieldsAt_agree agree _ _) fun _ _ logging => ?_
  refine .bind (fieldsAt_agree agree _ _) fun _ _ lock => ?_
  refine .bind (fieldsAt_agree agree _ _) fun _ _ trusted => ?_
  refine .bind (fieldsAt_agree agree _ _) fun _ _ lifecycle => ?_
  refine .bind (fieldsAt_agree agree _ _) fun _ _ policy => ?_
  refine .bind (fieldsAt_agree agree _ _) fun _ _ cors => ?_
  refine .bind (fieldsAt_agree agree _ _) fun _ _ tagging => ?_
  refine .bind (fieldsAt_agree tagging _ _) fun _ _ _ => ?_
  refine .bind (objectsAt_agree lifecycle _ _) fun _ _ rules => ?_
  refine .bind (.each rules fun _ _ => lifecycleRule_inStep)
    fun _ _ lifecycleRules => ?_
  refine .bind (objectsAt_agree policy _ _) fun _ _ objects => ?_
  refine .bind (.each objects fun _ _ => statement_inStep)
    fun _ _ statements => ?_
  refine .bind (objectsAt_agree cors _ _) fun _ _ corsRules => .sound ?_
  simp only [Configuration.outline, (fieldOr_agree agree _ _).same, (encryption.field _).same,
    (logging.field _).same, (fieldOr_agree lock _ _).same, objectLock_ordered lock,
    asList_ordered (trusted.field _),
    map_eq_of_forall₂ _ (fun _ _ same => same) lifecycleRules,
    map_eq_of_forall₂ _ (fun _ _ same => same) statements, List.map_map,
    map_eq_of_forall₂ (CorsRule.ordered ∘ fun object => corsRule object.2)
      (fun _ _ placed => corsRule_ordered placed.2) corsRules]
  congr 1
  exact actionsAt_ordered trusted

end Specification

end BucketGuard
