import BucketGuard.Proofs.ArtifactText
import BucketGuard.Proofs.Grouping
import BucketGuard.Proofs.Json.Alike
import BucketGuard.Proofs.Outline

namespace BucketGuard

/-! Artifacts with their values ordered. Canonical text orders every value that it writes, so it
does not tell whether the values were ordered before. -/

/-! ## Settings -/

namespace Json

theorem orderedMembers_append (first second : List (String × Json)) :
    orderedMembers (first ++ second) = orderedMembers first ++ orderedMembers second := by
  rw [orderedMembers_eq_map, orderedMembers_eq_map, orderedMembers_eq_map, List.map_append]

theorem map_ordered_ordered (items : List Json) :
    (items.map ordered).map ordered = items.map ordered := by
  rw [List.map_map]
  exact List.map_congr_left fun item _ => ordered_ordered item

theorem orderedMembers_listField {α : Type} {change : α → α} (render : α → Json) (name : String)
    (items : List α) (same : ∀ item, (render (change item)).ordered = (render item).ordered) :
    orderedMembers (listField name (items.map change) render) =
      orderedMembers (listField name items render) := by
  rw [listField, listField, List.isEmpty_map]
  split
  · rfl
  · simp only [orderedMembers, ordered, orderedItems_eq_map, List.map_map, Function.comp_def, same]

theorem orderedMembers_givenField (render : Json → Json) (name : String) (value : Json)
    (same : (render value.ordered).ordered = (render value).ordered) :
    orderedMembers (givenField name value.ordered render) =
      orderedMembers (givenField name value render) := by
  simp only [givenField, ordered_eq_leaf_iff]
  split
  · rfl
  · simp only [orderedMembers, same]

end Json

namespace Transition

theorem json_ordered (daysName : String) (transition : Transition) :
    (transition.ordered.json daysName).ordered = (transition.json daysName).ordered := by
  simp [json, ordered, Json.ordered, Json.orderedMembers]

end Transition

namespace LifecycleRule

theorem json_ordered (rule : LifecycleRule) : rule.ordered.json.ordered = rule.json.ordered := by
  have period (name daysName : String) (days : Json) :=
    Json.orderedMembers_givenField (fun days => .obj [(daysName, days)]) name days
      (by simp [Json.ordered, Json.orderedMembers])
  have transitions (name daysName : String) (transitions : List Transition) :=
    Json.orderedMembers_listField _ name transitions (Transition.json_ordered daysName)
  simp only [json, ordered, Json.ordered, Json.orderedMembers_append, period, transitions,
    Json.orderedMembers, Json.ordered_ordered, Json.isGiven_ordered]

theorem listJson_ordered (rules : List LifecycleRule) :
    (listJson (rules.map ordered)).ordered = (listJson rules).ordered := by
  simp only [listJson, Json.ordered, Json.orderedMembers, Json.orderedItems_eq_map, List.map_map,
    Function.comp_def, json_ordered]

end LifecycleRule

namespace ObjectLock

theorem json_ordered (lock : ObjectLock) : lock.ordered.json.ordered = lock.json.ordered := by
  simp [json, ordered, Json.ordered, Json.orderedMembers]

end ObjectLock

namespace CorsRule

theorem json_ordered (rule : CorsRule) : rule.ordered.json.ordered = rule.json.ordered := by
  have list (name : String) (items : List Json) :=
    Json.orderedMembers_listField id name items Json.ordered_ordered
  have age (name : String) (value : Json) :=
    Json.orderedMembers_givenField id name value value.ordered_ordered
  simp only [json, ordered, Json.ordered, Json.orderedMembers_append, list, age,
    Json.orderedMembers, Json.orderedItems_eq_map, Json.map_ordered_ordered]

theorem listJson_ordered (rules : List CorsRule) :
    (listJson (rules.map ordered)).ordered = (listJson rules).ordered := by
  simp only [listJson, Json.ordered, Json.orderedMembers, Json.orderedItems_eq_map, List.map_map,
    Function.comp_def, json_ordered]

end CorsRule

namespace Artifact

def ordered (artifact : Artifact) : Artifact :=
  { bucket := artifact.bucket
    encryptionKey := artifact.encryptionKey.ordered
    statements := artifact.statements.map Statement.ordered
    lifecycleRules := artifact.lifecycleRules.map LifecycleRule.ordered
    lock := artifact.lock.map ObjectLock.ordered
    loggingBucket := artifact.loggingBucket.ordered
    loggingPrefix := artifact.loggingPrefix.ordered
    corsRules := artifact.corsRules.map CorsRule.ordered }

private theorem optional_ordered (name : String) {left right : Option Json}
    (same : left.map Json.ordered = right.map Json.ordered) :
    (Members.optional name left).map (fun (name, value) => (name, value.ordered)) =
      (Members.optional name right).map fun (name, value) => (name, value.ordered) := by
  cases left with
  | none => cases right with
    | none => rfl
    | some other => contradiction
  | some value => cases right with
    | none => contradiction
    | some other =>
        simp only [Members.optional, Option.toList, List.map_cons, List.map_nil,
          Option.some.inj same]

theorem values_ordered (policy : Json) (artifact : Artifact) :
    artifact.ordered.values policy = artifact.values policy := by
  have encryption : artifact.ordered.encryptionField.ordered =
      artifact.encryptionField.ordered := by
    simp [encryptionField, ordered, Json.ordered, Json.orderedMembers]
  have lifecycle : artifact.ordered.lifecycleJson?.map Json.ordered =
      artifact.lifecycleJson?.map Json.ordered := by
    simp only [lifecycleJson?, ordered, List.isEmpty_map]
    split <;> simp [LifecycleRule.listJson_ordered]
  have lock : artifact.ordered.lockJson?.map Json.ordered =
      artifact.lockJson?.map Json.ordered := by
    simp only [lockJson?, ordered, Option.map_map, Function.comp_def, ObjectLock.json_ordered]
  have logging : (artifact.ordered.loggingJson? "targetBucket" "targetPrefix").map Json.ordered =
      (artifact.loggingJson? "targetBucket" "targetPrefix").map Json.ordered := by
    simp only [loggingJson?, ordered, Json.isGiven_ordered]
    split
    · simp [loggingJson, Json.ordered, Json.orderedMembers, apply_ite Json.ordered]
    · rfl
  have cors : artifact.ordered.corsJson?.map Json.ordered =
      artifact.corsJson?.map Json.ordered := by
    simp only [corsJson?, ordered, List.isEmpty_map]
    split <;> simp [CorsRule.listJson_ordered]
  have bucket : artifact.ordered.bucket = artifact.bucket := rfl
  simp only [values, settings, List.map_append, encryption, bucket, optional_ordered _ lifecycle,
    optional_ordered _ lock, optional_ordered _ logging, optional_ordered _ cors]

end Artifact

/-! ## Policies -/

namespace Document

theorem orderedItems_congr {α : Type} {items : List α} {first second : α → Document}
    (same : ∀ item ∈ items, (first item).ordered = (second item).ordered) :
    orderedItems (items.map first) = orderedItems (items.map second) := by
  induction items with
  | nil => rfl
  | cons item rest induction =>
      rw [List.map_cons, List.map_cons, orderedItems, orderedItems, same item (.head _),
        induction fun other member => same other (.tail _ member)]

theorem ordered_obj_congr {α : Type} {groups : List (Scalar × α)} {first second : α → Document}
    (same : ∀ value, (first value).ordered = (second value).ordered) :
    ordered (.obj (groups.map fun (key, value) => (key, first value))) =
      ordered (.obj (groups.map fun (key, value) => (key, second value))) := by
  have members : orderedMembers (groups.map fun (key, value) => (key, first value)) =
      orderedMembers (groups.map fun (key, value) => (key, second value)) := by
    induction groups with
    | nil => rfl
    | cons group rest induction =>
        rw [List.map_cons, List.map_cons, orderedMembers, orderedMembers, same, induction]
  have keys (change : α → Document) :
      (groups.map fun (key, value) => (key, change value)).map Prod.fst = groups.map Prod.fst := by
    rw [List.map_map]
    rfl
  rw [ordered, ordered, keys, keys, members]

/-- A list of values is written in their order whether or not each was ordered before. -/
theorem ordered_values (items : List Json) :
    ordered (.arr ((items.map Json.ordered).map ofJson)) = ordered (.arr (items.map ofJson)) := by
  rw [List.map_map, ordered, ordered, orderedItems_congr fun item _ => ?_]
  rw [Function.comp_apply, ordered_ofJson, ordered_ofJson, Json.ordered_ordered]

end Document

namespace PrincipalSet

theorem ordered_eq_wildcard_iff {set : PrincipalSet} : set.ordered = wildcard ↔ set = wildcard := by
  rcases set with ⟨kind, identifiers⟩
  simp only [ordered, wildcard, PrincipalSet.mk.injEq, Json.ordered_eq_leaf_iff,
    List.map_eq_singleton_iff]
  refine and_congr_right fun _ => ⟨?_, ?_⟩
  · rintro ⟨value, rfl, isMark⟩
    rw [isMark]
  · rintro rfl
    exact ⟨_, rfl, rfl⟩

/-- Identifiers with their values ordered, under the same kinds. -/
private def orderedGroups (groups : List (Scalar × List Json)) : List (Scalar × List Json) :=
  groups.map fun (kind, identifiers) => (kind, identifiers.map Json.ordered)

private theorem extend_ordered (groups : List (Scalar × List Json)) (kind : Scalar)
    (identifiers : List Json) :
    Members.extend (orderedGroups groups) kind (· ++ identifiers.map Json.ordered) =
      orderedGroups (Members.extend groups kind (· ++ identifiers)) := by
  induction groups with
  | nil => simp [Members.extend, orderedGroups]
  | cons group rest induction =>
      rw [orderedGroups, List.map_cons, Members.extend, Members.extend]
      split
      · simp [orderedGroups]
      · rw [orderedGroups] at induction
        rw [induction]
        rfl

private theorem grouped_ordered (groups : List (Scalar × List Json)) (sets : List PrincipalSet) :
    grouped (orderedGroups groups) (sets.map ordered) =
      (grouped groups sets).map orderedGroups := by
  induction sets generalizing groups with
  | nil => rfl
  | cons set rest induction =>
      rw [List.map_cons, grouped, grouped]
      have kind : set.ordered.kind.key = set.kind.key := by
        rw [ordered]
        cases set.kind <;> rfl
      rw [kind]
      cases set.kind.key with
      | error fault => rfl
      | ok kind =>
          exact (congrArg (grouped · _) (extend_ordered groups kind set.identifiers)).trans
            (induction _)

theorem document_ordered (sets : List PrincipalSet) :
    (document (sets.map ordered)).map Document.ordered = (document sets).map Document.ordered := by
  have everyone : sets.map ordered = [wildcard] ↔ sets = [wildcard] := by
    rw [List.map_eq_singleton_iff]
    constructor
    · rintro ⟨set, rfl, isMark⟩
      rw [ordered_eq_wildcard_iff.mp isMark]
    · rintro rfl
      exact ⟨_, rfl, rfl⟩
  simp only [document, everyone]
  split
  · rfl
  · have groups := grouped_ordered [] sets
    rw [orderedGroups, List.map_nil] at groups
    rw [groups]
    cases grouped [] sets with
    | error fault => rfl
    | ok groups =>
        change Except.ok (Document.ordered (.obj ((orderedGroups groups).map _))) = Except.ok _
        rw [orderedGroups, List.map_map]
        exact congrArg Except.ok (Document.ordered_obj_congr Document.ordered_values)

end PrincipalSet

namespace Condition

private theorem grouped_ordered (groups : List (Scalar × List (Scalar × List Json)))
    (conditions : List Condition) :
    grouped groups (conditions.map ordered) = grouped groups conditions := by
  induction conditions generalizing groups with
  | nil => rfl
  | cons condition rest induction =>
      have test : condition.ordered.test.key = condition.test.key := by
        rw [ordered]
        cases condition.test <;> rfl
      have key : condition.ordered.key.key = condition.key.key := by
        rw [ordered]
        cases condition.key <;> rfl
      have values : condition.ordered.values = condition.values := rfl
      simp only [List.map_cons, grouped, test, key, values, induction]

theorem document_ordered (conditions : List Condition) :
    document (conditions.map ordered) = document conditions := by
  rw [document, document, grouped_ordered]

end Condition

namespace Statement

private theorem part_ordered {α : Type} {change : α → α}
    {render : List α → Except KeyFault Document} (name : String) (items : List α)
    (same : (render (items.map change)).map Document.ordered =
      (render items).map Document.ordered) :
    (part name render (items.map change)).map Document.orderedFields =
      (part name render items).map Document.orderedFields := by
  cases items with
  | nil => rfl
  | cons item rest =>
      have rendered (item : α) (rest : List α) : part name render (item :: rest) =
          (render (item :: rest)).map fun document => [(name, document)] := by
        simp only [part]
        cases render (item :: rest) <;> rfl
      rw [List.map_cons] at same ⊢
      rw [rendered, rendered]
      rcases Except.map_eq_map_iff.mp same with
        ⟨fault, changed, original⟩ | ⟨document, other, changed, original, same⟩
      · rw [changed, original]
      · rw [changed, original]
        simp only [Except.map, Document.orderedFields, same]

private theorem part_conditions (conditions : List Condition) :
    part "Condition" Condition.document (conditions.map Condition.ordered) =
      part "Condition" Condition.document conditions := by
  have same := Condition.document_ordered conditions
  cases conditions with
  | nil => rfl
  | cons condition rest =>
      rw [List.map_cons] at same ⊢
      simp only [part, same]

theorem document_ordered (statement : Statement) :
    statement.ordered.document.map Document.ordered =
      statement.document.map Document.ordered := by
  have principals : (part "Principal" PrincipalSet.document statement.ordered.principals).map
      Document.orderedFields = (part "Principal" PrincipalSet.document statement.principals).map
        Document.orderedFields :=
    part_ordered "Principal" _ (PrincipalSet.document_ordered _)
  have conditions : part "Condition" Condition.document statement.ordered.conditions =
      part "Condition" Condition.document statement.conditions :=
    part_conditions statement.conditions
  have sid : Document.orderedFields
      (if statement.ordered.sid = .null then []
        else [("Sid", Document.ofJson statement.ordered.sid)]) =
      Document.orderedFields
        (if statement.sid = .null then [] else [("Sid", Document.ofJson statement.sid)]) := by
    have same : statement.ordered.sid = statement.sid.ordered := rfl
    simp only [same, Json.ordered_eq_leaf_iff]
    split
    · rfl
    · simp only [Document.orderedFields, Document.ordered_ofJson, Json.ordered_ordered]
  have effect : (Document.ofJson statement.ordered.effect).ordered =
      (Document.ofJson statement.effect).ordered := by
    rw [Document.ordered_ofJson, Document.ordered_ofJson]
    exact congrArg Except.ok (Json.ordered_ordered _)
  have actions : Document.ordered (.arr (statement.ordered.actions.map Document.ofJson)) =
      Document.ordered (.arr (statement.actions.map Document.ofJson)) :=
    Document.ordered_values statement.actions
  have resources : Document.ordered (.arr (statement.ordered.resources.map Document.ofJson)) =
      Document.ordered (.arr (statement.resources.map Document.ofJson)) :=
    Document.ordered_values statement.resources
  rw [document, document, conditions]
  rcases Except.map_eq_map_iff.mp principals with
    ⟨fault, changed, original⟩ | ⟨fields, others, changed, original, same⟩
  · rw [changed, original]
    rfl
  · rw [changed, original]
    cases part "Condition" Condition.document statement.conditions with
    | error fault => rfl
    | ok conditions =>
        change Except.ok (Document.ordered (.ofFields _)) =
          Except.ok (Document.ordered (.ofFields _))
        rw [Document.ordered_ofFields, Document.ordered_ofFields]
        simp only [Document.orderedFields_append, Document.orderedFields, sid, effect, same,
          actions, resources]

end Statement

namespace Policy

private theorem documents_ordered (statements : List Statement) :
    (documents (statements.map Statement.ordered)).map Document.orderedItems =
      (documents statements).map Document.orderedItems := by
  induction statements with
  | nil => rfl
  | cons statement rest induction =>
      rw [List.map_cons, documents, documents]
      rcases Except.map_eq_map_iff.mp statement.document_ordered with
        ⟨fault, changed, original⟩ | ⟨first, other, changed, original, same⟩
      · rw [changed, original]
        rfl
      · rw [changed, original]
        rcases Except.map_eq_map_iff.mp induction with
          ⟨fault, changed, original⟩ | ⟨items, others, changed, original, sameItems⟩
        · rw [changed, original]
          rfl
        · rw [changed, original]
          change Except.ok (Document.orderedItems (first :: items)) =
            Except.ok (Document.orderedItems (other :: others))
          rw [Document.orderedItems, Document.orderedItems, same, sameItems]

theorem document_ordered (statements : List Statement) :
    document (statements.map Statement.ordered) >>= Document.ordered =
      document statements >>= Document.ordered := by
  rw [document, document]
  rcases Except.map_eq_map_iff.mp (documents_ordered statements) with
    ⟨fault, changed, original⟩ | ⟨items, others, changed, original, same⟩
  · rw [changed, original]
  · rw [changed, original]
    simp only [bind, Except.bind, pure, Except.pure, Document.ordered_ofFields,
      Document.orderedFields, Document.ordered, same]

end Policy

namespace Artifact

/-- Canonical text does not tell whether the values of an artifact were ordered before. -/
theorem canonical_ordered (artifact : Artifact) : artifact.ordered.canonical = artifact.canonical := by
  have policy : Policy.document artifact.ordered.statements >>= Document.ordered =
      Policy.document artifact.statements >>= Document.ordered :=
    Policy.document_ordered artifact.statements
  rw [canonical_eq, canonical_eq, policy]
  simp only [values_ordered]

end Artifact

end BucketGuard
