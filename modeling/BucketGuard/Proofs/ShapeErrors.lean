import BucketGuard.Proofs.Compilation
import BucketGuard.Proofs.Json.Places
import BucketGuard.Proofs.Path
import BucketGuard.Proofs.Reading
import Mathlib.Data.List.Nodup

namespace BucketGuard

/-! Errors of shape. A specification is read at places that must hold an object and at places that
must hold a list of objects. An error is reported at every such place that holds something else, and
nowhere else, and none is reported twice. -/

namespace Specification

/-! ## Places -/

/-- What a specification holds at a place. -/
def held? (fields : Fields) (place : Path) : Option Json :=
  Json.at? (.field place.root :: place.steps) (.obj fields)

/-- The sections of a specification. -/
def sections : List String :=
  ["encryption", "logging", "objectLock", "trustedPrincipals", "lifecycle", "policy", "cors",
    "tagging"]

def tagsPlace : Path := (Path.ofRoot "tagging").field "tags"

def rulesPlace : Path := (Path.ofRoot "lifecycle").field "rules"

def statementsPlace : Path := (Path.ofRoot "policy").field "statements"

def corsPlace : Path := (Path.ofRoot "cors").field "rules"

/-- The sections of a lifecycle rule. -/
def ruleSections : List String :=
  ["expiration", "noncurrentVersionExpiration", "abortIncompleteMultipartUpload"]

/-- The lists of a lifecycle rule. -/
def ruleLists : List String := ["transitions", "noncurrentVersionTransitions"]

/-- The lists of a statement. -/
def statementLists : List String := ["principals", "conditions"]

/-- The places that are read as sections. -/
inductive IsSection : Path → Prop
  | top {name : String} (isSection : name ∈ sections) : IsSection (.ofRoot name)
  | tags : IsSection tagsPlace
  | ofRule (index : Nat) {name : String} (isSection : name ∈ ruleSections) :
      IsSection ((rulesPlace.item index).field name)

/-- The places that are read as lists of objects. -/
inductive IsList : Path → Prop
  | rules : IsList rulesPlace
  | statements : IsList statementsPlace
  | corsRules : IsList corsPlace
  | ofRule (index : Nat) {name : String} (isList : name ∈ ruleLists) :
      IsList ((rulesPlace.item index).field name)
  | ofStatement (index : Nat) {name : String} (isList : name ∈ statementLists) :
      IsList ((statementsPlace.item index).field name)

/-- What is held is neither null nor of an expected kind. -/
def HoldsOther (expected : Kind) (held : Option Json) : Prop :=
  ∃ value : Json, held = some value ∧ value ≠ .null ∧ value.kind ≠ expected

/-- What is held is no object, not even null. -/
def NoObject (held : Option Json) : Prop := ∃ value : Json, held = some value ∧ value.kind ≠ .obj

/-- The places that hold something that cannot be read. -/
inductive Misshapen (fields : Fields) : Path → Prop
  | ofSection {place : Path} (isSection : IsSection place)
      (other : HoldsOther .obj (held? fields place)) : Misshapen fields place
  | ofList {place : Path} (isList : IsList place)
      (other : HoldsOther .arr (held? fields place)) : Misshapen fields place
  | ofItem {place : Path} {index : Nat} (isList : IsList place)
      (noObject : NoObject (held? fields (place.item index))) :
      Misshapen fields (place.item index)

end Specification

namespace Shaped

variable {α β : Type}

/-- The places of the errors that were met on the way. -/
def places (shaped : Shaped α) : List Path := shaped.errors.map FieldError.path

@[simp] theorem places_pure (value : α) : (pure value : Shaped α).places = [] := rfl

@[simp] theorem places_bind (first : Shaped α) (next : α → Shaped β) :
    (first >>= next).places = first.places ++ (next first.value).places := List.map_append

theorem places_each (read : α → Shaped β) (items : List α) :
    (each read items).places = items.flatMap fun item => (read item).places := List.map_flatMap

/-- No place is met twice if what is read under different tags is at places of different tags. -/
def Tagged {τ : Type} (tag : Path → τ) (tags : List τ) (shaped : Shaped α) : Prop :=
  tags.Nodup → shaped.places.Nodup ∧ ∀ place ∈ shaped.places, tag place ∈ tags

namespace Tagged

variable {τ : Type} {tag : Path → τ} {tags : List τ}

theorem pure (value : α) : Tagged tag [] (Pure.pure value) :=
  fun _ => ⟨List.nodup_nil, fun _ member => nomatch member⟩

theorem bind {first : Shaped α} {next : α → Shaped β} {own : τ} (nodup : first.places.Nodup)
    (ofOwn : ∀ place ∈ first.places, tag place = own) (later : Tagged tag tags (next first.value)) :
    Tagged tag (own :: tags) (first >>= next) := by
  intro distinct
  rcases List.nodup_cons.mp distinct with ⟨fresh, distinct⟩
  rcases later distinct with ⟨nodupLater, ofLater⟩
  rw [places_bind]
  refine ⟨List.nodup_append.mpr ⟨nodup, nodupLater, ?_⟩, List.forall_mem_append.mpr ⟨?_, ?_⟩⟩
  · rintro place isFirst _ isLater rfl
    exact fresh (ofOwn place isFirst ▸ ofLater place isLater)
  · exact fun place member => List.mem_cons.mpr (.inl (ofOwn place member))
  · exact fun place member => List.mem_cons_of_mem _ (ofLater place member)

end Tagged

end Shaped

namespace Path

/-- The step from a path towards a place below it. -/
def stepTo? (path place : Path) : Option Step := place.steps[path.steps.length]?

@[simp] theorem stepTo?_field (path : Path) (key : String) :
    path.stepTo? (path.field key) = some (.field key) := by simp [stepTo?, field]

@[simp] theorem stepTo?_field_item (path : Path) (key : String) (index : Nat) :
    path.stepTo? ((path.field key).item index) = some (.field key) := by simp [stepTo?, field, item]

end Path

namespace Specification

/-! ## Sections and lists -/

/-- The members of what is held, none where it is no object. -/
def membersOf (held : Option Json) : Fields := (held.getD .null).members

/-- The items of what is held, none where it is no list. -/
def itemsOf (held : Option Json) : List Json := (held.getD .null).items

theorem holdsOther_iff {expected : Kind} {held : Option Json} :
    HoldsOther expected held ↔
      (held.getD .null).kind ≠ .null ∧ (held.getD .null).kind ≠ expected := by
  have isNull (value : Json) : value ≠ .null ↔ value.kind ≠ .null := by
    cases value with
    | leaf scalar => cases scalar <;> simp [Json.kind, Scalar.kind]
    | _ => simp [Json.kind]
  cases held with
  | none => simp [HoldsOther, Json.kind, Scalar.kind]
  | some value => simp [HoldsOther, ← isNull]

instance (expected : Kind) (held : Option Json) : Decidable (HoldsOther expected held) :=
  decidable_of_iff _ holdsOther_iff.symm

theorem getElem?_itemsOf_eq_some_iff {held : Option Json} {index : Nat} {value : Json} :
    (itemsOf held)[index]? = some value ↔
      ∃ items, held = some (.arr items) ∧ items[index]? = some value := by
  cases held with
  | none => simp [itemsOf, Json.items]
  | some holder => cases holder <;> simp [itemsOf, Json.items]

theorem places_kindErrors (expected : Kind) (problem : Kind → Problem) (path : Path)
    (held : Option Json) :
    (kindErrors expected problem path (held.getD .null)).map FieldError.path =
      if HoldsOther expected held then [path] else [] := by
  rw [kindErrors, Path.flag]
  simp only [decide_eq_true_eq, ← holdsOther_iff]
  split <;> rfl

variable {fields : Fields} {key : String} {place : Path}

theorem mem_places_fieldsAt {path : Path} :
    place ∈ (fieldsAt fields key path).places ↔
      place = path ∧ HoldsOther .obj (Members.get? fields key) := by
  rw [fieldsAt_eq, Shaped.places, Json.field, places_kindErrors]
  split <;> simp [*]

/-! ## Items of lists -/

/-- The object that an item is, at its place. -/
def placedObject? (path : Path) (item : Json × Nat) : Option (Path × Fields) :=
  match item.1 with
  | .obj members => some (path.item item.2, members)
  | _ => none

theorem placedObject?_eq_some_iff {path : Path} {item : Json × Nat} {object : Path × Fields} :
    placedObject? path item = some object ↔
      item.1 = .obj object.2 ∧ object.1 = path.item item.2 := by
  rcases item with ⟨value, index⟩
  rcases object with ⟨placed, members⟩
  cases value with
  | obj own => simp [placedObject?, and_comm, eq_comm]
  | _ => simp [placedObject?]

theorem value_objectsFrom (path : Path) (index : Nat) (items : List Json) :
    (objectsFrom path index items).value = (items.zipIdx index).filterMap (placedObject? path) := by
  induction items generalizing index with
  | nil => rfl
  | cons item rest induction =>
      rw [List.zipIdx_cons]
      cases item with
      | obj members => exact congrArg (_ :: ·) (induction (index + 1))
      | _ => exact induction (index + 1)

theorem places_objectsFrom (path : Path) (index : Nat) (items : List Json) :
    (objectsFrom path index items).places =
      ((items.zipIdx index).filter (·.1.kind ≠ .obj)).map (path.item ·.2) := by
  induction items generalizing index with
  | nil => rfl
  | cons item rest induction =>
      rw [List.zipIdx_cons]
      by_cases isObject : item.kind = .obj
      · rcases Json.exists_obj_of_kind isObject with ⟨members, rfl⟩
        rw [objectsFrom, Shaped.places_bind, Shaped.places_pure, List.append_nil]
        exact induction (index + 1)
      · rw [objectsFrom_of_noObject isObject, List.filter_cons_of_pos (by simpa using isObject)]
        exact congrArg (_ :: ·) (induction (index + 1))

theorem places_objectsAt (fields : Fields) (key : String) (path : Path) :
    (objectsAt fields key path).places =
      (if HoldsOther .arr (Members.get? fields key) then [path] else []) ++
        (objectsFrom path 0 (itemsOf (Members.get? fields key))).places := by
  rw [objectsAt_eq, Shaped.places, List.map_append, Json.field, places_kindErrors]
  rfl

theorem mem_places_objectsAt {path : Path} :
    place ∈ (objectsAt fields key path).places ↔
      place = path ∧ HoldsOther .arr (Members.get? fields key) ∨
        ∃ index, place = path.item index ∧
          NoObject (itemsOf (Members.get? fields key))[index]? := by
  rw [places_objectsAt, places_objectsFrom, List.mem_append, List.mem_map]
  refine or_congr (by split <;> simp [*]) ?_
  constructor
  · rintro ⟨⟨value, index⟩, member, rfl⟩
    rcases List.mem_filter.mp member with ⟨occurs, noObject⟩
    exact ⟨index, rfl, value, List.mem_zipIdx_iff_getElem?.mp occurs, of_decide_eq_true noObject⟩
  · rintro ⟨index, rfl, value, occurs, noObject⟩
    exact ⟨(value, index), List.mem_filter.mpr
      ⟨List.mem_zipIdx_iff_getElem?.mpr occurs, decide_eq_true noObject⟩, rfl⟩

theorem value_objectsAt (fields : Fields) (key : String) (path : Path) :
    (objectsAt fields key path).value =
      (itemsOf (Members.get? fields key)).zipIdx.filterMap (placedObject? path) := by
  rw [objectsAt_eq, value_objectsFrom]
  rfl

/-- The objects that are read from a list are the objects in it, each with its place. -/
theorem mem_value_objectsAt {path : Path} {object : Path × Fields} :
    object ∈ (objectsAt fields key path).value ↔
      ∃ index, (itemsOf (Members.get? fields key))[index]? = some (.obj object.2) ∧
        object.1 = path.item index := by
  rw [value_objectsAt, List.mem_filterMap]
  simp only [placedObject?_eq_some_iff]
  constructor
  · rintro ⟨⟨value, index⟩, occurs, rfl, isPlace⟩
    exact ⟨index, List.mem_zipIdx_iff_getElem?.mp occurs, isPlace⟩
  · rintro ⟨index, occurs, isPlace⟩
    exact ⟨(.obj object.2, index), List.mem_zipIdx_iff_getElem?.mpr occurs, rfl, isPlace⟩

/-! ## Objects in lists -/

/-- The faults of an object with sections and lists of objects under some of its keys. -/
def ObjectFault (sections lists : List String) (fields : Fields) (path place : Path) : Prop :=
  (∃ key ∈ sections, place = path.field key ∧ HoldsOther .obj (Members.get? fields key)) ∨
    ∃ key ∈ lists, place = path.field key ∧ HoldsOther .arr (Members.get? fields key) ∨
      ∃ index, place = (path.field key).item index ∧
        NoObject (itemsOf (Members.get? fields key))[index]?

theorem mem_places_lifecycleRule {path : Path} :
    place ∈ (lifecycleRule path fields).places ↔
      ObjectFault ruleSections ruleLists fields path place := by
  simp only [lifecycleRule, transitionsAt, Shaped.places_bind, Shaped.places_pure,
    List.append_nil, List.mem_append, mem_places_fieldsAt, mem_places_objectsAt, ObjectFault,
    ruleSections, ruleLists, List.exists_mem_cons_iff, List.not_mem_nil, false_and, exists_false,
    or_false, or_assoc]

theorem mem_places_statement {path : Path} :
    place ∈ (statement path fields).places ↔
      ObjectFault [] statementLists fields path place := by
  simp only [statement, Shaped.places_bind, Shaped.places_pure, List.append_nil, List.mem_append,
    mem_places_objectsAt, ObjectFault, statementLists, List.exists_mem_cons_iff, List.not_mem_nil,
    false_and, exists_false, or_false, false_or]

/-! ## No place twice -/

theorem nodup_places_fieldsAt (fields : Fields) (key : String) (path : Path) :
    (fieldsAt fields key path).places.Nodup := by
  rw [fieldsAt_eq, Shaped.places, Json.field, places_kindErrors]
  split <;> simp

theorem pairwise_zipIdx (items : List Json) :
    items.zipIdx.Pairwise fun left right => left.2 ≠ right.2 := by
  rw [← List.pairwise_map, List.zipIdx_map_snd]
  exact List.nodup_range'

theorem nodup_places_objectsAt (fields : Fields) (key : String) (path : Path) :
    (objectsAt fields key path).places.Nodup := by
  rw [places_objectsAt]
  split
  next other =>
    -- Where something else is held there are no items.
    rcases other with ⟨value, held, -, noList⟩
    cases value with
    | arr items => exact absurd rfl noList
    | _ => simp [held, itemsOf, Json.items, places_objectsFrom]
  next =>
    rw [List.nil_append, places_objectsFrom]
    refine List.pairwise_map.mpr (((pairwise_zipIdx _).filter _).imp ?_)
    exact fun different same => different (path.item_injective same)

/-- The objects of a list are at different places. -/
theorem pairwise_value_objectsAt (fields : Fields) (key : String) (path : Path) :
    (objectsAt fields key path).value.Pairwise fun left right => left.1 ≠ right.1 := by
  rw [value_objectsAt, List.pairwise_filterMap]
  refine (pairwise_zipIdx _).imp fun different left isLeft right isRight same => different ?_
  rw [(placedObject?_eq_some_iff.mp isLeft).2, (placedObject?_eq_some_iff.mp isRight).2] at same
  exact path.item_injective same

theorem stepTo?_of_mem_fieldsAt {path : Path}
    (member : place ∈ (fieldsAt fields key (path.field key)).places) :
    path.stepTo? place = some (.field key) := by
  rw [(mem_places_fieldsAt.mp member).1, Path.stepTo?_field]

theorem stepTo?_of_mem_objectsAt {path : Path}
    (member : place ∈ (objectsAt fields key (path.field key)).places) :
    path.stepTo? place = some (.field key) := by
  rcases mem_places_objectsAt.mp member with ⟨rfl, -⟩ | ⟨index, rfl, -⟩
  · exact path.stepTo?_field key
  · exact path.stepTo?_field_item key index

theorem places_transitionsAt (fields : Fields) (key : String) (path : Path) :
    (transitionsAt fields key path).places = (objectsAt fields key path).places := by
  rw [transitionsAt, Shaped.places_bind, Shaped.places_pure, List.append_nil]

theorem nodup_places_lifecycleRule (path : Path) (fields : Fields) :
    (lifecycleRule path fields).places.Nodup := by
  have tagged : (lifecycleRule path fields).Tagged path.stepTo?
      ((ruleSections ++ ruleLists).map fun key => some (.field key)) := by
    refine .bind (nodup_places_fieldsAt ..) (fun _ => stepTo?_of_mem_fieldsAt) ?_
    refine .bind (nodup_places_fieldsAt ..) (fun _ => stepTo?_of_mem_fieldsAt) ?_
    refine .bind (nodup_places_fieldsAt ..) (fun _ => stepTo?_of_mem_fieldsAt) ?_
    refine .bind (places_transitionsAt fields .. ▸ nodup_places_objectsAt ..)
      (fun _ member => stepTo?_of_mem_objectsAt (places_transitionsAt fields .. ▸ member)) ?_
    refine .bind (places_transitionsAt fields .. ▸ nodup_places_objectsAt ..)
      (fun _ member => stepTo?_of_mem_objectsAt (places_transitionsAt fields .. ▸ member)) ?_
    exact .pure _
  exact (tagged (by decide)).1

theorem nodup_places_statement (path : Path) (fields : Fields) :
    (statement path fields).places.Nodup := by
  have tagged : (statement path fields).Tagged path.stepTo?
      (statementLists.map fun key => some (.field key)) := by
    refine .bind (nodup_places_objectsAt ..) (fun _ => stepTo?_of_mem_objectsAt) ?_
    refine .bind (nodup_places_objectsAt ..) (fun _ => stepTo?_of_mem_objectsAt) ?_
    exact .pure _
  exact (tagged (by decide)).1

theorem stepTo?_of_objectFault {sections lists : List String} {path : Path} {index : Nat}
    (fault : ObjectFault sections lists fields (path.item index) place) :
    path.stepTo? place = some (.item index) := by
  rcases fault with ⟨key, -, rfl, -⟩ | ⟨key, -, ⟨rfl, -⟩ | ⟨inner, rfl, -⟩⟩ <;>
    simp [Path.stepTo?, Path.field, Path.item]

section Each

variable {α : Type} {sections lists : List String} {read : Path → Fields → Shaped α}

/-- What is read from every object of a list has the faults of these objects. -/
theorem mem_places_each {path : Path} (faults : ∀ {path fields place},
      place ∈ (read path fields).places ↔ ObjectFault sections lists fields path place) :
    place ∈ (Shaped.each (fun (path, object) => read path object)
        (objectsAt fields key path).value).places ↔
      ∃ index object, (itemsOf (Members.get? fields key))[index]? = some (.obj object) ∧
        ObjectFault sections lists object (path.item index) place := by
  rw [Shaped.places_each, List.mem_flatMap]
  constructor
  · rintro ⟨⟨_, object⟩, isObject, member⟩
    rcases mem_value_objectsAt.mp isObject with ⟨index, occurs, rfl⟩
    exact ⟨index, object, occurs, faults.mp member⟩
  · rintro ⟨index, object, occurs, fault⟩
    exact ⟨(path.item index, object), mem_value_objectsAt.mpr ⟨index, occurs, rfl⟩,
      faults.mpr fault⟩

theorem nodup_places_each (fields : Fields) (key : String) (path : Path)
    (nodup : ∀ path fields, (read path fields).places.Nodup)
    (faults : ∀ {path fields place}, place ∈ (read path fields).places ↔
      ObjectFault sections lists fields path place) :
    (Shaped.each (fun (path, object) => read path object)
      (objectsAt fields key path).value).places.Nodup := by
  rw [Shaped.places_each, List.nodup_flatMap]
  refine ⟨fun object _ => nodup object.1 object.2, ?_⟩
  refine (pairwise_value_objectsAt fields key path).imp_of_mem ?_
  rintro ⟨_, left⟩ ⟨_, right⟩ isLeft isRight different place ofLeft ofRight
  rcases mem_value_objectsAt.mp isLeft with ⟨leftIndex, -, rfl⟩
  rcases mem_value_objectsAt.mp isRight with ⟨rightIndex, -, rfl⟩
  have same := (stepTo?_of_objectFault (faults.mp ofLeft)).symm.trans
    (stepTo?_of_objectFault (faults.mp ofRight))
  cases same
  exact different rfl

end Each

/-! ## Whole specifications -/

/-- The section of a place, and whether the place is the section itself, something directly in it, or
something in an object of a list. -/
def depth (place : Path) : String × Nat :=
  match place.steps with
  | [] => (place.root, 0)
  | [_] | [_, _] => (place.root, 1)
  | _ => (place.root, 2)

theorem depth_of_mem_sectionAt (member : place ∈ (sectionAt fields key).places) :
    depth place = (key, 0) := by
  rw [(mem_places_fieldsAt.mp member).1]
  rfl

theorem depth_of_mem_objectsAt {root : String}
    (member : place ∈ (objectsAt fields key ((Path.ofRoot root).field key)).places) :
    depth place = (root, 1) := by
  rcases mem_places_objectsAt.mp member with ⟨rfl, -⟩ | ⟨index, rfl, -⟩ <;> rfl

theorem depth_of_mem_each {α : Type} {sections lists : List String}
    {read : Path → Fields → Shaped α} {root : String} (faults : ∀ {path fields place},
      place ∈ (read path fields).places ↔ ObjectFault sections lists fields path place)
    (member : place ∈ (Shaped.each (fun (path, object) => read path object)
      (objectsAt fields key ((Path.ofRoot root).field key)).value).places) :
    depth place = (root, 2) := by
  rcases (mem_places_each faults).mp member with ⟨index, object, -, fault⟩
  rcases fault with ⟨key, -, rfl, -⟩ | ⟨key, -, ⟨rfl, -⟩ | ⟨inner, rfl, -⟩⟩ <;> rfl

theorem nodup_places_shapedConfiguration (fields : Fields) :
    (shapedConfiguration fields).places.Nodup := by
  have tagged : (shapedConfiguration fields).Tagged depth
      (sections.map (·, 0) ++ [("tagging", 1), ("lifecycle", 1), ("lifecycle", 2), ("policy", 1),
        ("policy", 2), ("cors", 1)]) := by
    refine .bind (nodup_places_fieldsAt ..) (fun _ => depth_of_mem_sectionAt) ?_
    refine .bind (nodup_places_fieldsAt ..) (fun _ => depth_of_mem_sectionAt) ?_
    refine .bind (nodup_places_fieldsAt ..) (fun _ => depth_of_mem_sectionAt) ?_
    refine .bind (nodup_places_fieldsAt ..) (fun _ => depth_of_mem_sectionAt) ?_
    refine .bind (nodup_places_fieldsAt ..) (fun _ => depth_of_mem_sectionAt) ?_
    refine .bind (nodup_places_fieldsAt ..) (fun _ => depth_of_mem_sectionAt) ?_
    refine .bind (nodup_places_fieldsAt ..) (fun _ => depth_of_mem_sectionAt) ?_
    refine .bind (nodup_places_fieldsAt ..) (fun _ => depth_of_mem_sectionAt) ?_
    refine .bind (nodup_places_fieldsAt ..) (fun _ member => ?_) ?_
    · rw [(mem_places_fieldsAt.mp member).1]
      rfl
    refine .bind (nodup_places_objectsAt ..) (fun _ => depth_of_mem_objectsAt) ?_
    refine .bind (nodup_places_each _ _ _ nodup_places_lifecycleRule mem_places_lifecycleRule)
      (fun _ => depth_of_mem_each mem_places_lifecycleRule) ?_
    refine .bind (nodup_places_objectsAt ..) (fun _ => depth_of_mem_objectsAt) ?_
    refine .bind (nodup_places_each _ _ _ nodup_places_statement mem_places_statement)
      (fun _ => depth_of_mem_each mem_places_statement) ?_
    refine .bind (nodup_places_objectsAt ..) (fun _ => depth_of_mem_objectsAt) ?_
    exact .pure _
  exact (tagged (by decide)).1

/-! ## What is held at a place -/

section Held

variable {value : Json} {path : Path}

theorem held?_ofRoot (fields : Fields) (key : String) :
    held? fields (.ofRoot key) = Members.get? fields key := by
  simp [held?, Path.ofRoot, Json.at?]

theorem held?_field (fields : Fields) (path : Path) (name : String) :
    held? fields (path.field name) = Members.get? (membersOf (held? fields path)) name := by
  refine (Json.at?_append (.field path.root :: path.steps) [.field name] (.obj fields)).trans ?_
  change (held? fields path).bind _ = _
  cases held? fields path with
  | none => rfl
  | some holder => cases holder <;> simp [Json.at?, membersOf, Json.members, Members.get?]

theorem held?_item (fields : Fields) (path : Path) (index : Nat) :
    held? fields (path.item index) = (itemsOf (held? fields path))[index]? := by
  refine (Json.at?_append (.field path.root :: path.steps) [.item index] (.obj fields)).trans ?_
  change (held? fields path).bind _ = _
  cases held? fields path with
  | none => rfl
  | some holder => cases holder <;> simp [Json.at?, itemsOf, Json.items]

theorem exists_obj_of_held?_field {name : String}
    (held : held? fields (path.field name) = some value) :
    ∃ members, held? fields path = some (.obj members) := by
  rw [held?_field, membersOf] at held
  cases isHolder : held? fields path with
  | none => simp [isHolder, Json.members, Members.get?] at held
  | some holder =>
      cases holder with
      | obj members => exact ⟨members, rfl⟩
      | _ => simp [isHolder, Json.members, Members.get?] at held

theorem value_sectionAt (fields : Fields) (root : String) :
    (sectionAt fields root).value = membersOf (held? fields (.ofRoot root)) := by
  rw [sectionAt, fieldsAt_eq, held?_ofRoot]
  rfl

end Held

/-! ## Errors and misshapen places -/

/-- The misshapen places in an object that is held at a path. -/
def FaultBelow (sections lists : List String) (fields : Fields) (path place : Path) : Prop :=
  (∃ key ∈ sections, place = path.field key ∧ HoldsOther .obj (held? fields place)) ∨
    ∃ key ∈ lists, place = path.field key ∧ HoldsOther .arr (held? fields place) ∨
      ∃ index, place = (path.field key).item index ∧ NoObject (held? fields place)

section Below

variable {sections lists : List String} {path : Path}

theorem objectFault_iff :
    ObjectFault sections lists (membersOf (held? fields path)) path place ↔
      FaultBelow sections lists fields path place := by
  have ofPlace (other : Path) (fault : Option Json → Prop) :
      place = other ∧ fault (held? fields other) ↔ place = other ∧ fault (held? fields place) :=
    and_congr_right fun equal => by rw [equal]
  simp only [ObjectFault, FaultBelow, ← held?_field, ← held?_item, ofPlace]

/-- There is a fault in an object only where the object is. -/
theorem FaultBelow.exists_object (fault : FaultBelow sections lists fields path place) :
    ∃ object, held? fields path = some (.obj object) := by
  rcases fault with ⟨key, -, rfl, value, held, -⟩ |
    ⟨key, -, ⟨rfl, value, held, -⟩ | ⟨index, rfl, value, held, -⟩⟩
  · exact exists_obj_of_held?_field held
  · exact exists_obj_of_held?_field held
  · rw [held?_item] at held
    rcases getElem?_itemsOf_eq_some_iff.mp held with ⟨items, isList, -⟩
    exact exists_obj_of_held?_field isList

/-- The faults of the objects that are read from a list of a section are the misshapen places in
its items. -/
theorem itemsFault_iff {root key : String} :
    (∃ index object,
      (itemsOf (Members.get? (sectionAt fields root).value key))[index]? = some (.obj object) ∧
        ObjectFault sections lists object (((Path.ofRoot root).field key).item index) place) ↔
      ∃ index,
        FaultBelow sections lists fields (((Path.ofRoot root).field key).item index) place := by
  simp only [value_sectionAt, ← held?_field, ← held?_item, ← objectFault_iff]
  refine exists_congr fun index => ⟨?_, fun fault => ?_⟩
  · rintro ⟨object, isObject, fault⟩
    rw [isObject]
    exact fault
  · rcases (objectFault_iff.mp fault).exists_object with ⟨object, isObject⟩
    rw [isObject] at fault
    exact ⟨object, isObject, fault⟩

theorem FaultBelow.misshapen (fault : FaultBelow sections lists fields path place)
    (ofSections : ∀ key ∈ sections, IsSection (path.field key))
    (ofLists : ∀ key ∈ lists, IsList (path.field key)) : Misshapen fields place := by
  rcases fault with ⟨key, member, rfl, other⟩ |
    ⟨key, member, ⟨rfl, other⟩ | ⟨index, rfl, noObject⟩⟩
  · exact .ofSection (ofSections key member) other
  · exact .ofList (ofLists key member) other
  · exact .ofItem (ofLists key member) noObject

end Below

/-- The misshapen places, object by object. -/
theorem misshapen_iff :
    Misshapen fields place ↔
      (∃ key ∈ sections, place = .ofRoot key ∧ HoldsOther .obj (held? fields place)) ∨
        FaultBelow ["tags"] [] fields (.ofRoot "tagging") place ∨
        FaultBelow [] ["rules"] fields (.ofRoot "lifecycle") place ∨
        (∃ index, FaultBelow ruleSections ruleLists fields (rulesPlace.item index) place) ∨
        FaultBelow [] ["statements"] fields (.ofRoot "policy") place ∨
        (∃ index, FaultBelow [] statementLists fields (statementsPlace.item index) place) ∨
        FaultBelow [] ["rules"] fields (.ofRoot "cors") place := by
  constructor
  · have inList {list : Path} (isList : IsList list)
        (fault : place = list ∧ HoldsOther .arr (held? fields place) ∨
          ∃ index, place = list.item index ∧ NoObject (held? fields place)) :
        FaultBelow [] ["rules"] fields (.ofRoot "lifecycle") place ∨
          (∃ index, FaultBelow ruleSections ruleLists fields (rulesPlace.item index) place) ∨
          FaultBelow [] ["statements"] fields (.ofRoot "policy") place ∨
          (∃ index, FaultBelow [] statementLists fields (statementsPlace.item index) place) ∨
          FaultBelow [] ["rules"] fields (.ofRoot "cors") place := by
      cases isList with
      | rules => exact .inl (.inr ⟨_, List.mem_singleton_self _, fault⟩)
      | ofRule index isKey => exact .inr (.inl ⟨index, .inr ⟨_, isKey, fault⟩⟩)
      | statements => exact .inr (.inr (.inl (.inr ⟨_, List.mem_singleton_self _, fault⟩)))
      | ofStatement index isKey => exact .inr (.inr (.inr (.inl ⟨index, .inr ⟨_, isKey, fault⟩⟩)))
      | corsRules => exact .inr (.inr (.inr (.inr (.inr ⟨_, List.mem_singleton_self _, fault⟩))))
    rintro (⟨isSection, other⟩ | ⟨isList, other⟩ | ⟨isList, noObject⟩)
    · cases isSection with
      | top isKey => exact .inl ⟨_, isKey, rfl, other⟩
      | tags => exact .inr (.inl (.inl ⟨_, List.mem_singleton_self _, rfl, other⟩))
      | ofRule index isKey =>
          exact .inr (.inr (.inr (.inl ⟨index, .inl ⟨_, isKey, rfl, other⟩⟩)))
    · exact .inr (.inr (inList isList (.inl ⟨rfl, other⟩)))
    · exact .inr (.inr (inList isList (.inr ⟨_, rfl, noObject⟩)))
  · rintro (⟨key, isSection, rfl, other⟩ | fault | fault | ⟨index, fault⟩ | fault |
      ⟨index, fault⟩ | fault)
    · exact .ofSection (.top isSection) other
    · exact fault.misshapen (List.forall_mem_singleton.mpr .tags) nofun
    · exact fault.misshapen nofun (List.forall_mem_singleton.mpr .rules)
    · exact fault.misshapen (fun _ => .ofRule index) (fun _ => .ofRule index)
    · exact fault.misshapen nofun (List.forall_mem_singleton.mpr .statements)
    · exact fault.misshapen nofun (fun _ => .ofStatement index)
    · exact fault.misshapen nofun (List.forall_mem_singleton.mpr .corsRules)

/-- Errors of shape are reported at the misshapen places and at no other. -/
theorem mem_places_shapedConfiguration :
    place ∈ (shapedConfiguration fields).places ↔ Misshapen fields place := by
  have ofRoot (key : String) : place ∈ (sectionAt fields key).places ↔
      place = .ofRoot key ∧ HoldsOther .obj (held? fields place) := by
    refine mem_places_fieldsAt.trans (and_congr_right fun equal => ?_)
    rw [equal, held?_ofRoot]
  have tags : place ∈ (fieldsAt (sectionAt fields "tagging").value "tags"
      ((Path.ofRoot "tagging").field "tags")).places ↔
        FaultBelow ["tags"] [] fields (.ofRoot "tagging") place := by
    rw [mem_places_fieldsAt, value_sectionAt, ← objectFault_iff]
    simp [ObjectFault]
  have list (root key : String) : place ∈ (objectsAt (sectionAt fields root).value key
      ((Path.ofRoot root).field key)).places ↔ FaultBelow [] [key] fields (.ofRoot root) place := by
    rw [mem_places_objectsAt, value_sectionAt, ← objectFault_iff]
    simp [ObjectFault]
  rw [misshapen_iff]
  simp only [shapedConfiguration, Shaped.places_bind, Shaped.places_pure,
    List.append_nil, List.mem_append, ofRoot, tags, list, mem_places_each mem_places_lifecycleRule,
    mem_places_each mem_places_statement, itemsFault_iff]
  simp only [sections, List.exists_mem_cons_iff, List.not_mem_nil, false_and, exists_false,
    or_false, or_assoc]
  rfl

/-! ## Rejections -/

theorem configuration_eq_error_iff {rejection : Rejection} :
    configuration fields = .error rejection ↔
      (shapedConfiguration fields).errors = rejection.errors :=
  Rejection.orElse_eq_error_iff

theorem exists_rejection_iff :
    (∃ rejection, configuration fields = .error rejection) ↔ ∃ place, Misshapen fields place := by
  simp only [← mem_places_shapedConfiguration, Shaped.places, configuration_eq_error_iff]
  cases (shapedConfiguration fields).errors with
  | nil => simp [Rejection.errors]
  | cons first rest => exact iff_of_true ⟨⟨first, rest⟩, rfl⟩ ⟨_, List.mem_map_of_mem (.head _)⟩

theorem not_misshapen_of_ok {result : Configuration} (accepted : configuration fields = .ok result)
    (place : Path) : ¬Misshapen fields place := by
  intro misshapen
  rcases exists_rejection_iff.mpr ⟨place, misshapen⟩ with ⟨rejection, rejected⟩
  rw [accepted] at rejected
  contradiction

theorem isPlain_rulesPlace : rulesPlace.IsPlain :=
  (Path.isPlain_ofRoot (by decide)).field (by decide)

theorem isPlain_statementsPlace : statementsPlace.IsPlain :=
  (Path.isPlain_ofRoot (by decide)).field (by decide)

theorem isPlain_field_of_mem {path : Path} (plain : path.IsPlain) {names : List String}
    (plainNames : ∀ name ∈ names, IsPlainName name) {name : String} (member : name ∈ names) :
    (path.field name).IsPlain := plain.field (plainNames name member)

theorem isPlain_of_isSection (isSection : IsSection place) : place.IsPlain := by
  cases isSection with
  | top isKey =>
      have plainNames : ∀ name ∈ sections, IsPlainName name := by decide
      exact Path.isPlain_ofRoot (plainNames _ isKey)
  | tags => exact (Path.isPlain_ofRoot (by decide)).field (by decide)
  | ofRule index isKey =>
      exact isPlain_field_of_mem (isPlain_rulesPlace.item index) (by decide) isKey

theorem isPlain_of_isList (isList : IsList place) : place.IsPlain := by
  cases isList with
  | rules => exact isPlain_rulesPlace
  | statements => exact isPlain_statementsPlace
  | corsRules => exact (Path.isPlain_ofRoot (by decide)).field (by decide)
  | ofRule index isKey =>
      exact isPlain_field_of_mem (isPlain_rulesPlace.item index) (by decide) isKey
  | ofStatement index isKey =>
      exact isPlain_field_of_mem (isPlain_statementsPlace.item index) (by decide) isKey

theorem isPlain_of_misshapen (misshapen : Misshapen fields place) : place.IsPlain := by
  cases misshapen with
  | ofSection isSection => exact isPlain_of_isSection isSection
  | ofList isList => exact isPlain_of_isList isList
  | ofItem isList => exact (isPlain_of_isList isList).item _

/-- A rejected specification is told the places of its misshapen sections, lists and items, each
once. -/
theorem fields_of_rejection {rejection : Rejection}
    (rejected : configuration fields = .error rejection) :
    (rejection.errors.map FieldError.field).Nodup ∧
      ∀ text, text ∈ rejection.errors.map FieldError.field ↔
        ∃ place, Misshapen fields place ∧ place.text = text := by
  have texts : rejection.errors.map FieldError.field =
      (shapedConfiguration fields).places.map Path.text := by
    rw [← configuration_eq_error_iff.mp rejected, Shaped.places, List.map_map]
    rfl
  rw [texts]
  constructor
  · refine (nodup_places_shapedConfiguration fields).map_on fun left isLeft right isRight => ?_
    exact Path.text_injective (isPlain_of_misshapen (mem_places_shapedConfiguration.mp isLeft))
      (isPlain_of_misshapen (mem_places_shapedConfiguration.mp isRight))
  · intro text
    simp only [List.mem_map, mem_places_shapedConfiguration]

end Specification

end BucketGuard
