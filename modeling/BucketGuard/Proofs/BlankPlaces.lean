import BucketGuard.Proofs.ShapeErrors

namespace BucketGuard

/-! Blank places. Where a section or a list is read, it makes no difference whether the place holds
null, or an empty object or list, or nothing at all: the specification is read the same. -/

namespace Shaped.InStep

variable {α β : Type}

theorem refl {related : α → α → Prop} (same : ∀ value, related value value) (shaped : Shaped α) :
    InStep related shaped shaped := ⟨same shaped.value, rfl⟩

theorem eq {left right : Shaped α} (inStep : InStep Eq left right) : left = right := by
  rcases left with ⟨value, errors⟩
  rcases inStep with ⟨rfl, rfl⟩
  rfl

theorem of_eq {left right : Shaped α} (equal : left = right) : InStep Eq left right :=
  equal ▸ refl (fun _ => rfl) left

end Shaped.InStep

namespace Specification

open Shaped (InStep)

/-- A specification with something else, or nothing, at a place. -/
def edited (fields : Fields) (place : Path) (value? : Option Json) : Fields :=
  (Json.replaced value? (.field place.root :: place.steps) (.obj fields)).members

theorem obj_edited (fields : Fields) (place : Path) (value? : Option Json) :
    .obj (edited fields place value?) =
      Json.replaced value? (.field place.root :: place.steps) (.obj fields) := by
  have kind := Json.kind_replaced value? (.field place.root :: place.steps) (.obj fields)
  rcases Json.exists_obj_of_kind kind with ⟨members, isObject⟩
  rw [edited, isObject]
  rfl

theorem held?_edited_ofRoot (fields : Fields) (name : String) (value? : Option Json) :
    held? (edited fields (.ofRoot name) value?) (.ofRoot name) = value? := by
  rw [held?_ofRoot]
  exact (Members.get?_assign ..).trans (if_pos rfl)

/-- Where an object is held, an edit of its members puts the new value under the key. -/
theorem held?_edited_field {fields members : Fields} {holder : Path}
    (isHolder : held? fields holder = some (.obj members)) (name : String)
    (value? : Option Json) :
    held? (edited fields (holder.field name) value?) (holder.field name) = value? := by
  rw [held?, obj_edited]
  exact Json.at?_replaced value? name isHolder

/-- What a place may hold in the stead of an empty section or list. -/
def blanks (empty : Json) : List (Option Json) := [none, some .null, some empty]

variable {fields left right : Fields} {key name : String} {path : Path}
  {leftValue rightValue : Option Json}

theorem fieldsAt_blank (isBlank : Members.get? fields key ∈ blanks (.obj [])) (path : Path) :
    fieldsAt fields key path = .sound [] := by
  rw [fieldsAt, Json.field]
  simp only [blanks, List.mem_cons, List.not_mem_nil, or_false] at isBlank
  rcases isBlank with held | held | held <;> rw [held] <;> rfl

theorem objectsAt_blank (isBlank : Members.get? fields key ∈ blanks (.arr [])) (path : Path) :
    objectsAt fields key path = .sound [] := by
  rw [objectsAt, Json.field]
  simp only [blanks, List.mem_cons, List.not_mem_nil, or_false] at isBlank
  rcases isBlank with held | held | held <;> rw [held] <;> rfl

theorem fieldsAt_congr (same : Members.get? left key = Members.get? right key) (path : Path) :
    fieldsAt left key path = fieldsAt right key path := by
  rw [fieldsAt, fieldsAt, Json.field, Json.field, same]

theorem objectsAt_congr (same : Members.get? left key = Members.get? right key) (path : Path) :
    objectsAt left key path = objectsAt right key path := by
  rw [objectsAt, objectsAt, Json.field, Json.field, same]

/-! ## Objects -/

/-- Objects that are read the same: as sections under some keys, as lists of objects under others,
and as they are under the rest. -/
structure ReadsAlike (sections lists others : List String) (left right : Fields) : Prop where
  section_eq : ∀ key ∈ sections, ∀ path, fieldsAt left key path = fieldsAt right key path
  list_eq : ∀ key ∈ lists, ∀ path, objectsAt left key path = objectsAt right key path
  held_eq : ∀ key ∈ others, Members.get? left key = Members.get? right key

namespace ReadsAlike

variable {sections lists others : List String}

theorem refl (fields : Fields) : ReadsAlike sections lists others fields fields :=
  ⟨fun _ _ _ => rfl, fun _ _ _ => rfl, fun _ _ => rfl⟩

theorem of_section (apart : ∀ key ∈ lists ++ others, name ≠ key) (members : Fields)
    (isLeft : leftValue ∈ blanks (.obj [])) (isRight : rightValue ∈ blanks (.obj [])) :
    ReadsAlike sections lists others (Members.assign members name leftValue)
      (Members.assign members name rightValue) where
  section_eq key _ path := by
    by_cases same : name = key
    · rw [fieldsAt_blank (by simpa [same] using isLeft),
        fieldsAt_blank (by simpa [same] using isRight)]
    · exact fieldsAt_congr (by simp [same]) path
  list_eq key member :=
    objectsAt_congr (by simp [apart key (List.mem_append_left _ member)])
  held_eq key member := by simp [apart key (List.mem_append_right _ member)]

theorem of_list (apart : ∀ key ∈ sections ++ others, name ≠ key) (members : Fields)
    (isLeft : leftValue ∈ blanks (.arr [])) (isRight : rightValue ∈ blanks (.arr [])) :
    ReadsAlike sections lists others (Members.assign members name leftValue)
      (Members.assign members name rightValue) where
  section_eq key member :=
    fieldsAt_congr (by simp [apart key (List.mem_append_left _ member)])
  list_eq key _ path := by
    by_cases same : name = key
    · rw [objectsAt_blank (by simpa [same] using isLeft),
        objectsAt_blank (by simpa [same] using isRight)]
    · exact objectsAt_congr (by simp [same]) path
  held_eq key member := by simp [apart key (List.mem_append_right _ member)]

end ReadsAlike

abbrev RuleAlike : Fields → Fields → Prop :=
  ReadsAlike ruleSections ruleLists ["enabled", "status", "prefix", "id"]

abbrev StatementAlike : Fields → Fields → Prop :=
  ReadsAlike [] statementLists ["sid", "effect", "actions", "resources"]

theorem lifecycleRule_of_alike (alike : RuleAlike left right) (path : Path) :
    lifecycleRule path left = lifecycleRule path right := by
  rcases alike with ⟨sections, lists, others⟩
  simp only [ruleSections, ruleLists, List.forall_mem_cons] at sections lists others
  rcases sections with ⟨expiration, noncurrentExpiration, abortUpload, -⟩
  rcases lists with ⟨transitions, noncurrentTransitions, -⟩
  rcases others with ⟨enabled, status, keyPrefix, id, -⟩
  have switch : ruleEnabled left = ruleEnabled right := by
    rw [ruleEnabled, ruleEnabled, fieldOr, fieldOr, enabled, status]
  have ofPrefix : Json.field left "prefix" = Json.field right "prefix" :=
    congrArg (·.getD .null) keyPrefix
  simp only [lifecycleRule, transitionsAt, fieldOr, expiration, noncurrentExpiration, abortUpload,
    transitions, noncurrentTransitions, switch, ofPrefix, id]

theorem statement_of_alike (alike : StatementAlike left right) (path : Path) :
    statement path left = statement path right := by
  rcases alike with ⟨-, lists, others⟩
  simp only [statementLists, List.forall_mem_cons] at lists others
  rcases lists with ⟨principals, conditions, -⟩
  rcases others with ⟨sid, effect, actions, resources, -⟩
  simp only [statement, fieldOr, Json.field, principals, conditions, sid, effect, actions,
    resources]

/-! ## Sections -/

/-- Objects that are read the same as one of the sections. -/
structure SectionAlike (root : String) (left right : Fields) : Prop where
  rules : root = "lifecycle" → InStep (List.Forall₂ (Placed RuleAlike))
    (objectsAt left "rules" rulesPlace) (objectsAt right "rules" rulesPlace)
  statements : root = "policy" → InStep (List.Forall₂ (Placed StatementAlike))
    (objectsAt left "statements" statementsPlace) (objectsAt right "statements" statementsPlace)
  corsRules : root = "cors" → objectsAt left "rules" corsPlace = objectsAt right "rules" corsPlace
  tags : root = "tagging" → fieldsAt left "tags" tagsPlace = fieldsAt right "tags" tagsPlace
  others : root ∉ ["lifecycle", "policy", "cors", "tagging"] → left = right

theorem placed_refl {related : Fields → Fields → Prop} (same : ∀ fields, related fields fields)
    (objects : List (Path × Fields)) : List.Forall₂ (Placed related) objects objects :=
  List.forall₂_same.mpr fun object _ => ⟨rfl, same object.2⟩

theorem each_of_placed {α : Type} {related : Fields → Fields → Prop}
    (read : Path → Fields → Shaped α)
    (same : ∀ {left right}, related left right → ∀ path, read path left = read path right)
    {lefts rights : List (Path × Fields)} (objects : List.Forall₂ (Placed related) lefts rights) :
    Shaped.each (fun (path, object) => read path object) lefts =
      Shaped.each (fun (path, object) => read path object) rights := by
  have inStep : InStep (List.Forall₂ Eq)
      (Shaped.each (fun (path, object) => read path object) lefts)
      (Shaped.each (fun (path, object) => read path object) rights) := by
    refine .each objects ?_
    rintro ⟨path, left⟩ ⟨_, right⟩ ⟨rfl, alike⟩
    exact .of_eq (same alike path)
  exact InStep.eq ⟨List.forall₂_eq_eq_eq ▸ inStep.value, inStep.errors⟩

theorem SectionAlike.refl (root : String) (fields : Fields) : SectionAlike root fields fields where
  rules _ := .refl (placed_refl ReadsAlike.refl) _
  statements _ := .refl (placed_refl ReadsAlike.refl) _
  corsRules _ := rfl
  tags _ := rfl
  others _ := rfl

/-! ## Whole specifications -/

/-- Specifications that are read the same, section by section. -/
structure SpecificationsAlike (left right : Fields) : Prop where
  name : Members.get? left "name" = Members.get? right "name"
  environment : Members.get? left "environment" = Members.get? right "environment"
  ofSection : ∀ key ∈ sections,
    InStep (SectionAlike key) (sectionAt left key) (sectionAt right key)

theorem shapedConfiguration_of_alike (alike : SpecificationsAlike left right) :
    shapedConfiguration left = shapedConfiguration right := by
  refine InStep.eq ?_
  refine .bind (alike.ofSection "encryption" (by decide)) fun _ _ encryption => ?_
  refine .bind (alike.ofSection "logging" (by decide)) fun _ _ logging => ?_
  refine .bind (alike.ofSection "objectLock" (by decide)) fun _ _ lock => ?_
  refine .bind (alike.ofSection "trustedPrincipals" (by decide)) fun _ _ trusted => ?_
  refine .bind (alike.ofSection "lifecycle" (by decide)) fun _ _ lifecycle => ?_
  refine .bind (alike.ofSection "policy" (by decide)) fun _ _ policy => ?_
  refine .bind (alike.ofSection "cors" (by decide)) fun _ _ cors => ?_
  refine .bind (alike.ofSection "tagging" (by decide)) fun _ _ tagging => ?_
  refine .bind (.of_eq (tagging.tags rfl)) fun _ _ tags => ?_
  refine .bind (lifecycle.rules rfl) fun _ _ rules => ?_
  refine .bind (.of_eq (each_of_placed lifecycleRule lifecycleRule_of_alike rules))
    fun _ _ lifecycleRules => ?_
  refine .bind (policy.statements rfl) fun _ _ objects => ?_
  refine .bind (.of_eq (each_of_placed statement statement_of_alike objects))
    fun _ _ statements => ?_
  refine .bind (.of_eq (cors.corsRules rfl)) fun _ _ corsRules => .of_eq ?_
  have encryption := encryption.others (by decide)
  have logging := logging.others (by decide)
  have lock := lock.others (by decide)
  have trusted := trusted.others (by decide)
  simp only [fieldOr, alike.name, alike.environment, encryption, logging, lock, trusted, tags,
    lifecycleRules, statements, corsRules]

/-! ## Edits -/

section Edits

variable {related : Fields → Fields → Prop} {rest : List Step}

theorem forall₂_modify {α : Type} {related : α → α → Prop} (same : ∀ item, related item item)
    {change other : α → α} (changed : ∀ item, related (change item) (other item))
    (items : List α) (index : Nat) :
    List.Forall₂ related (items.modify index change) (items.modify index other) := by
  induction items generalizing index with
  | nil => simp
  | cons item rest induction =>
      cases index with
      | zero => exact .cons (changed item) (List.forall₂_same.mpr fun item _ => same item)
      | succ index => exact .cons (same item) (induction index)

/-- An edit below a key leaves everything but objects as it is, so the results match if those of
objects do. -/
theorem matches_replaced (same : ∀ members, related members members)
    (objects : ∀ members,
      related (Json.replaced leftValue (.field name :: rest) (.obj members)).members
        (Json.replaced rightValue (.field name :: rest) (.obj members)).members) (value : Json) :
    Matches related (Json.replaced leftValue (.field name :: rest) value)
      (Json.replaced rightValue (.field name :: rest) value) := by
  refine ⟨by rw [Json.kind_replaced, Json.kind_replaced], ?_⟩
  cases value with
  | obj members => exact objects members
  | leaf scalar =>
      rw [Json.replaced_leaf, Json.replaced_leaf]
      exact same _
  | arr items =>
      rw [Json.replaced_field_arr, Json.replaced_field_arr]
      exact same _

theorem items_replaced (value? : Option Json) (index : Nat) (rest : List Step) (value : Json) :
    (Json.replaced value? (.item index :: rest) value).items =
      value.items.modify index (Json.replaced value? rest) := by
  cases value with
  | arr items => rfl
  | _ => simp [Json.replaced, Json.items]

theorem field_modify_replaced (value? : Option Json) (steps : List Step) (members : Fields)
    (key : String) :
    Json.field (Members.modify members key (Json.replaced value? steps)) key =
      Json.replaced value? steps (Json.field members key) := by
  rw [Json.field, Json.field, Members.get?_modify, if_pos rfl]
  cases Members.get? members key with
  | none => exact (Json.replaced_leaf value? steps .null).symm
  | some value => rfl

/-- Edits of one object in a list. -/
theorem objectsAt_modify_inStep (same : ∀ members, related members members)
    (objects : ∀ members, related (Members.assign members name leftValue)
      (Members.assign members name rightValue)) (list : Fields) (index : Nat) (path : Path) :
    InStep (List.Forall₂ (Placed related))
      (objectsAt (Members.modify list key
        (Json.replaced leftValue [.item index, .field name])) key path)
      (objectsAt (Members.modify list key
        (Json.replaced rightValue [.item index, .field name])) key path) := by
  have changed (item : Json) : Matches related (Json.replaced leftValue [.field name] item)
      (Json.replaced rightValue [.field name] item) := by
    refine matches_replaced same ?_ item
    exact objects
  refine objectsAt_inStep ?_ ?_ path
  · rw [field_modify_replaced, field_modify_replaced, Json.kind_replaced, Json.kind_replaced]
  · rw [field_modify_replaced, field_modify_replaced, items_replaced, items_replaced]
    exact forall₂_modify (fun item => ⟨rfl, same item.members⟩) changed _ _

end Edits

/-! ## Blank places in a section -/

theorem sectionAlike_tags (isLeft : leftValue ∈ blanks (.obj []))
    (isRight : rightValue ∈ blanks (.obj [])) (members : Fields) :
    SectionAlike "tagging" (Members.assign members "tags" leftValue)
      (Members.assign members "tags" rightValue) where
  rules := nofun
  statements := nofun
  corsRules := nofun
  tags _ := by rw [fieldsAt_blank (by simpa using isLeft), fieldsAt_blank (by simpa using isRight)]
  others := nofun

theorem objectsAt_assign_blank (isLeft : leftValue ∈ blanks (.arr []))
    (isRight : rightValue ∈ blanks (.arr [])) (members : Fields) (key : String) (path : Path) :
    objectsAt (Members.assign members key leftValue) key path =
      objectsAt (Members.assign members key rightValue) key path := by
  rw [objectsAt_blank (by simpa using isLeft), objectsAt_blank (by simpa using isRight)]

theorem sectionAlike_rules (isLeft : leftValue ∈ blanks (.arr []))
    (isRight : rightValue ∈ blanks (.arr [])) (members : Fields) :
    SectionAlike "lifecycle" (Members.assign members "rules" leftValue)
      (Members.assign members "rules" rightValue) where
  rules _ := by
    rw [objectsAt_assign_blank isLeft isRight]
    exact .refl (placed_refl ReadsAlike.refl) _
  statements := nofun
  corsRules := nofun
  tags := nofun
  others := nofun

theorem sectionAlike_statements (isLeft : leftValue ∈ blanks (.arr []))
    (isRight : rightValue ∈ blanks (.arr [])) (members : Fields) :
    SectionAlike "policy" (Members.assign members "statements" leftValue)
      (Members.assign members "statements" rightValue) where
  rules := nofun
  statements _ := by
    rw [objectsAt_assign_blank isLeft isRight]
    exact .refl (placed_refl ReadsAlike.refl) _
  corsRules := nofun
  tags := nofun
  others := nofun

theorem sectionAlike_corsRules (isLeft : leftValue ∈ blanks (.arr []))
    (isRight : rightValue ∈ blanks (.arr [])) (members : Fields) :
    SectionAlike "cors" (Members.assign members "rules" leftValue)
      (Members.assign members "rules" rightValue) where
  rules := nofun
  statements := nofun
  corsRules _ := objectsAt_assign_blank isLeft isRight ..
  tags := nofun
  others := nofun

theorem sectionAlike_rule (alike : ∀ members, RuleAlike (Members.assign members name leftValue)
      (Members.assign members name rightValue)) (index : Nat) (members : Fields) :
    SectionAlike "lifecycle"
      (Members.modify members "rules" (Json.replaced leftValue [.item index, .field name]))
      (Members.modify members "rules" (Json.replaced rightValue [.item index, .field name])) where
  rules _ := objectsAt_modify_inStep ReadsAlike.refl alike members index rulesPlace
  statements := nofun
  corsRules := nofun
  tags := nofun
  others := nofun

theorem sectionAlike_statement
    (alike : ∀ members, StatementAlike (Members.assign members name leftValue)
      (Members.assign members name rightValue)) (index : Nat) (members : Fields) :
    SectionAlike "policy"
      (Members.modify members "statements" (Json.replaced leftValue [.item index, .field name]))
      (Members.modify members "statements" (Json.replaced rightValue [.item index, .field name]))
    where
  rules := nofun
  statements _ := objectsAt_modify_inStep ReadsAlike.refl alike members index statementsPlace
  corsRules := nofun
  tags := nofun
  others := nofun

/-! ## Blank places in a specification -/

theorem get?_edited_of_ne {place : Path} (different : place.root ≠ key) (value? : Option Json)
    (fields : Fields) :
    Members.get? (edited fields place value?) key = Members.get? fields key := by
  rcases place with ⟨root, steps⟩
  cases steps with
  | nil => exact (Members.get?_assign ..).trans (if_neg different)
  | cons step rest => exact (Members.get?_modify ..).trans (if_neg different)

theorem alike_of_root {root : String} (isSection : root ∈ sections)
    (apart : ∀ key, root ≠ key → Members.get? left key = Members.get? right key)
    (own : InStep (SectionAlike root) (sectionAt left root) (sectionAt right root)) :
    SpecificationsAlike left right where
  name := apart "name" fun same => absurd (same ▸ isSection) (by decide)
  environment := apart "environment" fun same => absurd (same ▸ isSection) (by decide)
  ofSection key _ := by
    by_cases same : root = key
    · exact same ▸ own
    · rw [sectionAt, sectionAt, fieldsAt_congr (apart key same)]
      exact .refl (SectionAlike.refl key) _

theorem alike_of_section (isSection : name ∈ sections) (fields : Fields)
    (isLeft : leftValue ∈ blanks (.obj [])) (isRight : rightValue ∈ blanks (.obj [])) :
    SpecificationsAlike (edited fields (.ofRoot name) leftValue)
      (edited fields (.ofRoot name) rightValue) := by
  have held (value? : Option Json) :
      Members.get? (edited fields (.ofRoot name) value?) name = value? := by
    rw [← held?_ofRoot, held?_edited_ofRoot]
  refine alike_of_root isSection (fun key apart => ?_) ?_
  · rw [get?_edited_of_ne apart, get?_edited_of_ne apart]
  · rw [sectionAt, sectionAt, fieldsAt_blank (by rwa [held]), fieldsAt_blank (by rwa [held])]
    exact .refl (SectionAlike.refl name) _

/-- An edit inside a section is read alike if the section is. -/
theorem alike_inside {root : String} {rest : List Step} (isSection : root ∈ sections)
    (inside : ∀ members, SectionAlike root
      (Json.replaced leftValue (.field name :: rest) (.obj members)).members
      (Json.replaced rightValue (.field name :: rest) (.obj members)).members) (fields : Fields) :
    SpecificationsAlike (edited fields { root, steps := .field name :: rest } leftValue)
      (edited fields { root, steps := .field name :: rest } rightValue) := by
  refine alike_of_root isSection (fun key apart => ?_) (fieldsAt_inStep ?_ _)
  · rw [get?_edited_of_ne apart, get?_edited_of_ne apart]
  · have held (value? : Option Json) :
        Json.field (edited fields { root, steps := .field name :: rest } value?) root =
          Json.replaced value? (.field name :: rest) (Json.field fields root) :=
      field_modify_replaced value? (.field name :: rest) fields root
    rw [held, held]
    exact matches_replaced (SectionAlike.refl root) inside _

theorem alike_of_isSection {place : Path} (isSection : IsSection place) (fields : Fields)
    (isLeft : leftValue ∈ blanks (.obj [])) (isRight : rightValue ∈ blanks (.obj [])) :
    SpecificationsAlike (edited fields place leftValue) (edited fields place rightValue) := by
  have lifecycle : "lifecycle" ∈ sections := by decide
  cases isSection with
  | top isKey => exact alike_of_section isKey fields isLeft isRight
  | tags =>
      refine alike_inside (by decide) ?_ fields
      exact sectionAlike_tags isLeft isRight
  | ofRule index isKey =>
      have apart : ∀ name ∈ ruleSections,
          ∀ key ∈ ruleLists ++ ["enabled", "status", "prefix", "id"], name ≠ key := by decide
      refine alike_inside lifecycle ?_ fields
      exact sectionAlike_rule
        (fun members => .of_section (apart _ isKey) members isLeft isRight) index

theorem alike_of_isList {place : Path} (isList : IsList place) (fields : Fields)
    (isLeft : leftValue ∈ blanks (.arr [])) (isRight : rightValue ∈ blanks (.arr [])) :
    SpecificationsAlike (edited fields place leftValue) (edited fields place rightValue) := by
  have lifecycle : "lifecycle" ∈ sections := by decide
  have policy : "policy" ∈ sections := by decide
  cases isList with
  | rules =>
      refine alike_inside lifecycle ?_ fields
      exact sectionAlike_rules isLeft isRight
  | statements =>
      refine alike_inside policy ?_ fields
      exact sectionAlike_statements isLeft isRight
  | corsRules =>
      refine alike_inside (by decide) ?_ fields
      exact sectionAlike_corsRules isLeft isRight
  | ofRule index isKey =>
      have apart : ∀ name ∈ ruleLists,
          ∀ key ∈ ruleSections ++ ["enabled", "status", "prefix", "id"], name ≠ key := by decide
      refine alike_inside lifecycle ?_ fields
      exact sectionAlike_rule
        (fun members => .of_list (apart _ isKey) members isLeft isRight) index
  | ofStatement index isKey =>
      have apart : ∀ name ∈ statementLists,
          ∀ key ∈ [] ++ ["sid", "effect", "actions", "resources"], name ≠ key := by decide
      refine alike_inside policy ?_ fields
      exact sectionAlike_statement
        (fun members => .of_list (apart _ isKey) members isLeft isRight) index

end Specification

end BucketGuard
