import BucketGuard.Proofs.ShapeErrors

namespace BucketGuard

/-! Items in their places. Where no place of a specification is misshapen, every list of it is read
into a list of the same length, and what stands at an index comes from the item at that index. -/

namespace Specification

/-! ## Lists that are read item by item -/

/-- The values come from the items of the list at a place, each from the item at its index. -/
structure FromItems {α : Type} (fields : Fields) (place : Path)
    (comesFrom : Path → Fields → α → Prop) (values : List α) : Prop where
  length : values.length = (itemsOf (held? fields place)).length
  item : ∀ index value, values[index]? = some value →
    ∃ object, held? fields (place.item index) = some (.obj object) ∧
      comesFrom (place.item index) object value

/-- The values are the items of the list at a place, if there is a list. -/
def IsListAt (fields : Fields) (place : Path) (values : List Json) : Prop :=
  ∀ items, held? fields place = some (.arr items) → values = items

/-! ## What comes from an item -/

structure RuleFrom (fields : Fields) (place : Path) (object : Fields) (rule : LifecycleRule) :
    Prop where
  read : (lifecycleRule place object).value = rule
  transitions : FromItems fields (place.field "transitions")
    (fun _ object value => value = transition object) rule.transitions
  noncurrentTransitions : FromItems fields (place.field "noncurrentVersionTransitions")
    (fun _ object value => value = transition object) rule.noncurrentTransitions

structure PrincipalFrom (fields : Fields) (place : Path) (object : Fields) (set : PrincipalSet) :
    Prop where
  read : set = principalSet object
  identifiers : IsListAt fields (place.field "identifiers") set.identifiers

structure ConditionFrom (fields : Fields) (place : Path) (object : Fields) (value : Condition) :
    Prop where
  read : value = condition object
  values : ∀ items, held? fields (place.field "values") = some (.arr items) →
    value.values = items.map fun (item : Json) => .str item.plain

structure StatementFrom (fields : Fields) (place : Path) (object : Fields) (value : Statement) :
    Prop where
  read : (statement place object).value = value
  principals : FromItems fields (place.field "principals") (PrincipalFrom fields) value.principals
  conditions : FromItems fields (place.field "conditions") (ConditionFrom fields) value.conditions
  actions : IsListAt fields (place.field "actions") value.actions
  resources : IsListAt fields (place.field "resources") value.resources

structure CorsFrom (fields : Fields) (place : Path) (object : Fields) (rule : CorsRule) : Prop where
  read : rule = corsRule object
  origins : IsListAt fields (place.field "allowedOrigins") rule.allowedOrigins
  methods : IsListAt fields (place.field "allowedMethods") rule.allowedMethods
  headers : IsListAt fields (place.field "allowedHeaders") rule.allowedHeaders
  exposed : IsListAt fields (place.field "exposedHeaders") rule.exposedHeaders

/-- Every list of a configuration has the length and the order of the list that it is read from. -/
structure InOrder (fields : Fields) (configuration : Configuration) : Prop where
  lifecycleRules : FromItems fields rulesPlace (RuleFrom fields) configuration.lifecycleRules
  statements : FromItems fields statementsPlace (StatementFrom fields) configuration.statements
  corsRules : FromItems fields corsPlace (CorsFrom fields) configuration.corsRules
  trustedPrincipals : IsListAt fields ((Path.ofRoot "trustedPrincipals").field "identifiers")
    configuration.trustedPrincipals
  trustedActions : ∀ items,
    held? fields ((Path.ofRoot "trustedPrincipals").field "actions") = some (.arr items) →
      configuration.trustedActions = some items

/-! ## Reading in order -/

variable {fields : Fields} {place : Path}

theorem value_objectsFrom_of_objects {items : List Json} (path : Path) (index : Nat)
    (objects : ∀ item ∈ items, item.kind = .obj) :
    (objectsFrom path index items).value =
      (items.zipIdx index).map fun item => (path.item item.2, item.1.members) := by
  induction items generalizing index with
  | nil => rfl
  | cons item rest induction =>
      rcases List.forall_mem_cons.mp objects with ⟨isObject, others⟩
      rcases Json.exists_obj_of_kind isObject with ⟨members, rfl⟩
      exact congrArg (_ :: ·) (induction (index + 1) others)

/-- What is read from the objects of a list comes from its items, if every item is an object. -/
theorem fromItems_of_objects {α : Type} {object : Fields} {key : String}
    (same : Members.get? object key = held? fields place)
    (objects : ∀ index, ¬NoObject (held? fields (place.item index)))
    {comesFrom : Path → Fields → α → Prop} (read : Path × Fields → α)
    (reads : ∀ index object, held? fields (place.item index) = some (.obj object) →
      comesFrom (place.item index) object (read (place.item index, object))) :
    FromItems fields place comesFrom ((objectsAt object key place).value.map read) := by
  simp only [held?_item, NoObject] at objects reads
  have areObjects : ∀ item ∈ itemsOf (held? fields place), item.kind = .obj := by
    intro item member
    rcases List.mem_iff_getElem?.mp member with ⟨index, occurs⟩
    exact not_not.mp fun noObject => objects index ⟨item, occurs, noObject⟩
  have read_eq : (objectsAt object key place).value =
      (itemsOf (held? fields place)).zipIdx.map
        fun item => (place.item item.2, item.1.members) := by
    have items : (Json.field object key).items = itemsOf (held? fields place) :=
      congrArg itemsOf same
    rw [objectsAt_eq, items]
    exact value_objectsFrom_of_objects place 0 areObjects
  rw [read_eq, List.map_map]
  constructor
  · rw [List.length_map, List.length_zipIdx]
  · intro index value found
    rw [List.getElem?_map, List.getElem?_zipIdx, Option.map_map] at found
    rcases Option.map_eq_some_iff.mp found with ⟨item, occurs, rfl⟩
    rcases Json.exists_obj_of_kind (areObjects item (List.mem_of_getElem? occurs)) with
      ⟨members, rfl⟩
    refine ⟨members, (held?_item ..).trans occurs, ?_⟩
    rw [Function.comp_apply, Function.comp_apply, Nat.zero_add]
    exact reads index members occurs

theorem isListAt_asList {object : Fields} {path : Path} {key : String}
    (same : Members.get? object key = held? fields (path.field key)) :
    IsListAt fields (path.field key) (asList (Json.field object key)) := by
  intro items held
  rw [Json.field, same, held]
  rfl

/-! ## Whole specifications -/

theorem areObjects_of_isList (sound : ∀ place, ¬Misshapen fields place) (isList : IsList place)
    (index : Nat) : ¬NoObject (held? fields (place.item index)) :=
  fun noObject => sound (place.item index) (.ofItem isList noObject)

section Objects

variable {path : Path} {object : Fields}

theorem get?_of_obj (isObject : held? fields path = some (.obj object)) (key : String) :
    Members.get? object key = held? fields (path.field key) := by
  rw [held?_field, isObject]
  rfl

theorem ruleFrom_read (sound : ∀ place, ¬Misshapen fields place) {index : Nat}
    (isObject : held? fields (rulesPlace.item index) = some (.obj object)) :
    RuleFrom fields (rulesPlace.item index) object
      (lifecycleRule (rulesPlace.item index) object).value where
  read := rfl
  transitions := fromItems_of_objects (get?_of_obj isObject _)
    (areObjects_of_isList sound (.ofRule index (by decide))) (fun object => transition object.2)
    fun _ _ _ => rfl
  noncurrentTransitions := fromItems_of_objects (get?_of_obj isObject _)
    (areObjects_of_isList sound (.ofRule index (by decide))) (fun object => transition object.2)
    fun _ _ _ => rfl

theorem principalFrom_read (isObject : held? fields path = some (.obj object)) :
    PrincipalFrom fields path object (principalSet object) where
  read := rfl
  identifiers := isListAt_asList (get?_of_obj isObject _)

theorem conditionFrom_read (isObject : held? fields path = some (.obj object)) :
    ConditionFrom fields path object (condition object) where
  read := rfl
  values items held := by
    have isList := isListAt_asList (get?_of_obj isObject _) items held
    rw [condition, isList]

theorem statementFrom_read (sound : ∀ place, ¬Misshapen fields place) {index : Nat}
    (isObject : held? fields (statementsPlace.item index) = some (.obj object)) :
    StatementFrom fields (statementsPlace.item index) object
      (statement (statementsPlace.item index) object).value where
  read := rfl
  principals := fromItems_of_objects (get?_of_obj isObject _)
    (areObjects_of_isList sound (.ofStatement index (by decide)))
    (fun object => principalSet object.2) fun _ _ => principalFrom_read
  conditions := fromItems_of_objects (get?_of_obj isObject _)
    (areObjects_of_isList sound (.ofStatement index (by decide)))
    (fun object => condition object.2) fun _ _ => conditionFrom_read
  actions := isListAt_asList (get?_of_obj isObject _)
  resources := isListAt_asList (get?_of_obj isObject _)

theorem corsFrom_read (isObject : held? fields path = some (.obj object)) :
    CorsFrom fields path object (corsRule object) where
  read := rfl
  origins := isListAt_asList (get?_of_obj isObject _)
  methods := isListAt_asList (get?_of_obj isObject _)
  headers := isListAt_asList (get?_of_obj isObject _)
  exposed := isListAt_asList (get?_of_obj isObject _)

end Objects

/-- The object that is read for a section holds what the section holds. -/
theorem get?_sectionAt (fields : Fields) (root key : String) :
    Members.get? (sectionAt fields root).value key =
      held? fields ((Path.ofRoot root).field key) := by
  rw [value_sectionAt, held?_field]

/-- An accepted specification is read with every item in its place. -/
theorem inOrder_of_ok {result : Configuration} (accepted : configuration fields = .ok result) :
    InOrder fields result := by
  have sound := not_misshapen_of_ok accepted
  rw [← (configuration_eq_ok_iff.mp accepted).2]
  exact {
    lifecycleRules := fromItems_of_objects (get?_sectionAt fields _ _)
      (areObjects_of_isList sound .rules) (fun rule => (lifecycleRule rule.1 rule.2).value)
      fun _ _ => ruleFrom_read sound
    statements := fromItems_of_objects (get?_sectionAt fields _ _)
      (areObjects_of_isList sound .statements) (fun object => (statement object.1 object.2).value)
      fun _ _ => statementFrom_read sound
    corsRules := fromItems_of_objects (get?_sectionAt fields _ _)
      (areObjects_of_isList sound .corsRules) (fun rule => corsRule rule.2)
      fun _ _ => corsFrom_read
    trustedPrincipals := isListAt_asList (get?_sectionAt fields _ _)
    trustedActions items held := by
      rw [← get?_sectionAt] at held
      change actionsAt _ = some items
      rw [actionsAt, Json.field, held]
      rfl }

end Specification

end BucketGuard
