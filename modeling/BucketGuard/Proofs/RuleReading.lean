import BucketGuard.Proofs.ArtifactText
import BucketGuard.Proofs.Json.KeyOrder
import BucketGuard.Proofs.LifecycleOrder

namespace BucketGuard

/-! Lifecycle rules are read back from their documents. A part that is absent reads as an empty list
or as null, so a document could have come from two rules only if their switches were no truth
values, or if the same number were given in two kinds, and validation accepts neither. -/

/-! ## Members that may be absent -/

namespace Members

variable {α : Type}

/-- Members of which each is there only if it has a value. -/
def parts (optionals : List (String × Option α)) : List (String × α) :=
  optionals.flatMap fun (name, value?) => optional name value?

theorem get?_parts {optionals : List (String × Option α)}
    (nodup : (optionals.map Prod.fst).Nodup) (key : String) :
    get? (parts optionals) key = (get? optionals key).join := by
  induction optionals with
  | nil => rfl
  | cons first rest induction =>
      rcases first with ⟨name, value?⟩
      rcases List.nodup_cons.mp nodup with ⟨fresh, nodup⟩
      have behind : get? (parts ((name, value?) :: rest)) key =
          (if name = key then value? else none).or (get? rest key).join := by
        rw [← induction nodup, ← get?_optional, ← get?_append]
        rfl
      rw [behind, get?]
      split
      next same =>
        rw [← same, get?_eq_none_iff.mpr fresh]
        exact Option.or_none
      next => exact Option.none_or

end Members

/-! ## Equal values -/

namespace Json

mutual
/-- The values are equal: scalars if they are one scalar or numbers of one size, and objects if they
hold equal values under the same keys. -/
def Same : Json → Json → Prop
  | .leaf left, .leaf right => left.sameKey right = true
  | .arr left, .arr right => SameItems left right
  | .obj left, .obj right =>
      SameMembers left right ∧ ∀ key ∈ right.map Prod.fst, key ∈ left.map Prod.fst
  | _, _ => False

def SameItems : List Json → List Json → Prop
  | [], [] => True
  | left :: lefts, right :: rights => Same left right ∧ SameItems lefts rights
  | _, _ => False

def SameMembers : List (String × Json) → List (String × Json) → Prop
  | [], _ => True
  | (key, value) :: rest, others =>
      (∃ other, Members.get? others key = some other ∧ Same value other) ∧ SameMembers rest others
end

theorem SameMembers.exists_same {left right : List (String × Json)}
    (same : SameMembers left right) :
    ∀ member ∈ left, ∃ other, Members.get? right member.1 = some other ∧ Same member.2 other := by
  induction left with
  | nil => exact fun _ member => nomatch member
  | cons member rest induction => exact List.forall_mem_cons.mpr ⟨same.1, induction same.2⟩

/-- Equal objects have equal values, or none, under every key. -/
theorem Same.get? {left right : List (String × Json)} (same : Same (.obj left) (.obj right))
    (key : String) : Option.Rel Same (Members.get? left key) (Members.get? right key) := by
  cases isLeft : Members.get? left key with
  | none =>
      have absent : key ∉ right.map Prod.fst := fun member =>
        Members.get?_eq_none_iff.mp isLeft (same.2 key member)
      rw [Members.get?_eq_none_iff.mpr absent]
      exact .none
  | some value =>
      rcases same.1.exists_same _ (Members.mem_of_get?_eq_some isLeft) with ⟨other, isRight, equal⟩
      rw [isRight]
      exact .some equal

theorem eq_of_same_str {left right : String} (same : Same (.str left) (.str right)) :
    left = right := by
  rcases Scalar.sameKey_iff.mp same with equal | ⟨_, _, isNumber, -⟩
  · exact Scalar.str.inj equal
  · contradiction

theorem eq_of_same_int {left right : Int} (same : Same (.int left) (.int right)) :
    left = right := by
  rcases Scalar.sameKey_iff.mp same with equal | ⟨first, second, isFirst, isSecond, sizes⟩
  · exact Scalar.int.inj equal
  · cases isFirst
    cases isSecond
    simpa [Magnitude.same, Magnitude.ofInt] using sizes

/-! ## Parts of documents -/

/-- A list that is left out if it is empty. -/
def listPart (render : α → Json) (items : List α) : Option Json :=
  if items.isEmpty then none else some (.arr (items.map render))

/-- A value under a name of its own, left out if it is null. -/
def valuePart (name : String) (value : Json) : Option Json :=
  if value = .null then none else some (.obj [(name, value)])

/-- The list in a part; a part that is absent holds none. -/
def listIn? (read : Json → Option α) : Option Json → Option (List α)
  | none => some []
  | some (.arr items) => items.mapM read
  | some _ => none

/-- The value in a part under a name; a part that is absent holds null. -/
def valueIn? (name : String) : Option Json → Option Json
  | none => some .null
  | some (.obj members) => Members.get? members name
  | some _ => none

theorem mapM_map_eq_some {read : Json → Option α} {render : α → Json} {items : List α}
    (inverse : ∀ item ∈ items, read (render item) = some item) :
    (items.map render).mapM read = some items := by
  induction items with
  | nil => rfl
  | cons first rest induction =>
      rw [List.map_cons, List.mapM_cons, inverse first (.head _),
        induction fun item member => inverse item (.tail _ member)]
      rfl

theorem listIn?_listPart {read : Json → Option α} {render : α → Json} {items : List α}
    (inverse : ∀ item ∈ items, read (render item) = some item) :
    listIn? read (listPart render items) = some items := by
  cases items with
  | nil => rfl
  | cons first rest => exact mapM_map_eq_some inverse

theorem valueIn?_valuePart (name : String) (value : Json) :
    valueIn? name (valuePart name value) = some value := by
  unfold valuePart
  split
  next isNull => rw [isNull]; rfl
  next => simp [valueIn?, Members.get?]

/-- Equal days are the same ones, or are left out on both sides. -/
theorem eq_of_rel_valuePart {name : String} {left right : Json}
    (leftDays : left = .null ∨ ∃ days, left = .int days)
    (rightDays : right = .null ∨ ∃ days, right = .int days)
    (rel : Option.Rel Same (valuePart name left) (valuePart name right)) : left = right := by
  rcases leftDays with rfl | ⟨days, rfl⟩ <;> rcases rightDays with rfl | ⟨otherDays, rfl⟩
  · rfl
  · cases rel
  · cases rel
  · have same := (Option.rel_some_some.mp rel).get? name
    simp only [Members.get?, if_pos, Option.rel_some_some] at same
    rw [eq_of_same_int same]

end Json

/-! ## Transitions -/

namespace Transition

/-- The transition that an object of days and a storage class stands for. -/
def ofJson? (daysName : String) : Json → Option Transition
  | .obj members => do
      let afterDays ← Members.get? members daysName
      let storageClass ← Members.get? members "StorageClass"
      return { afterDays, storageClass }
  | _ => none

theorem ofJson?_json {daysName : String} (different : daysName ≠ "StorageClass")
    (transition : Transition) : ofJson? daysName (transition.json daysName) = some transition := by
  simp [ofJson?, json, Members.get?, different]

/-- The days are an integer and the storage class is a text. -/
structure IsPlain (transition : Transition) : Prop where
  afterDays : ∃ days, transition.afterDays = .int days
  storageClass : ∃ name, transition.storageClass = .str name

theorem isPlain_of_isOrderly {transitions : List Transition} {expiration : Json}
    (orderly : Schedule.IsOrderly transitions expiration) :
    ∀ transition ∈ transitions, transition.IsPlain := by
  rcases orderly with ⟨days, haveDays, -, known, -⟩
  intro transition member
  rcases List.mem_iff_getElem.mp member with ⟨index, bound, rfl⟩
  have hasDays := haveDays.get bound (haveDays.length_eq ▸ bound)
  rcases List.mem_map.mp (known _ member) with ⟨name, -, isName⟩
  exact ⟨⟨_, hasDays.1⟩, ⟨name, isName.symm⟩⟩

theorem eq_of_same_json {daysName : String} (different : daysName ≠ "StorageClass")
    {left right : Transition} (leftPlain : left.IsPlain) (rightPlain : right.IsPlain)
    (same : Json.Same (left.json daysName) (right.json daysName)) : left = right := by
  rcases left with ⟨leftDays, leftClass⟩
  rcases right with ⟨rightDays, rightClass⟩
  rcases leftPlain with ⟨⟨days, rfl⟩, ⟨name, rfl⟩⟩
  rcases rightPlain with ⟨⟨otherDays, rfl⟩, ⟨otherName, rfl⟩⟩
  have sameDays := same.get? daysName
  have sameClass := same.get? "StorageClass"
  simp only [Members.get?, if_pos, if_neg different, Option.rel_some_some] at sameDays sameClass
  rw [Json.eq_of_same_int sameDays, Json.eq_of_same_str sameClass]

private theorem eq_of_sameItems {daysName : String} (different : daysName ≠ "StorageClass")
    {left right : List Transition} (leftPlain : ∀ transition ∈ left, transition.IsPlain)
    (rightPlain : ∀ transition ∈ right, transition.IsPlain)
    (same : Json.SameItems (left.map (json daysName)) (right.map (json daysName))) :
    left = right := by
  induction left generalizing right with
  | nil => cases right with
    | nil => rfl
    | cons other others => exact same.elim
  | cons transition rest induction =>
      cases right with
      | nil => exact same.elim
      | cons other others =>
          rcases List.forall_mem_cons.mp leftPlain with ⟨firstPlain, leftPlain⟩
          rcases List.forall_mem_cons.mp rightPlain with ⟨otherPlain, rightPlain⟩
          rw [eq_of_same_json different firstPlain otherPlain same.1,
            induction leftPlain rightPlain same.2]

/-- Equal lists are made of the same transitions, or are left out on both sides. -/
theorem eq_of_rel_listPart {daysName : String} (different : daysName ≠ "StorageClass")
    {left right : List Transition} (leftPlain : ∀ transition ∈ left, transition.IsPlain)
    (rightPlain : ∀ transition ∈ right, transition.IsPlain)
    (rel : Option.Rel Json.Same (Json.listPart (json daysName) left)
      (Json.listPart (json daysName) right)) : left = right := by
  cases left with
  | nil => cases right with
    | nil => rfl
    | cons other others => cases rel
  | cons transition rest =>
      cases right with
      | nil => cases rel
      | cons other others =>
          have same : Json.Same (.arr ((transition :: rest).map (json daysName)))
              (.arr ((other :: others).map (json daysName))) := Option.rel_some_some.mp rel
          exact eq_of_sameItems different leftPlain rightPlain same

end Transition

/-! ## Rules -/

namespace LifecycleRule

/-- The members of the document of a rule, each with its value if it is there. -/
def jsonParts (rule : LifecycleRule) : List (String × Option Json) :=
  [("ID", some rule.id),
    ("Status", some (.str (if rule.enabled.isGiven then "Enabled" else "Disabled"))),
    ("Filter", some (.obj [("Prefix", rule.keyPrefix)])),
    ("Transitions", Json.listPart (Transition.json "Days") rule.transitions),
    ("Expiration", Json.valuePart "Days" rule.expirationDays),
    ("NoncurrentVersionTransitions",
      Json.listPart (Transition.json "NoncurrentDays") rule.noncurrentTransitions),
    ("NoncurrentVersionExpiration", Json.valuePart "NoncurrentDays" rule.noncurrentExpirationDays),
    ("AbortIncompleteMultipartUpload",
      Json.valuePart "DaysAfterInitiation" rule.abortUploadDays)]

theorem json_eq (rule : LifecycleRule) : rule.json = .obj (Members.parts rule.jsonParts) := by
  have list {α : Type} (name : String) (items : List α) (render : α → Json) :
      Json.listField name items render = Members.optional name (Json.listPart render items) := by
    cases items <;> rfl
  have value (name daysName : String) (days : Json) :
      Json.givenField name days (fun days => .obj [(daysName, days)]) =
        Members.optional name (Json.valuePart daysName days) := by
    unfold Json.givenField Json.valuePart
    split <;> rfl
  rw [json, list, list, value, value, value]
  simp [Members.parts, jsonParts, Members.optional]

theorem get?_parts_jsonParts (rule : LifecycleRule) (key : String) :
    Members.get? (Members.parts rule.jsonParts) key =
      (Members.get? rule.jsonParts key).join := by
  have nodup : ["ID", "Status", "Filter", "Transitions", "Expiration",
      "NoncurrentVersionTransitions", "NoncurrentVersionExpiration",
      "AbortIncompleteMultipartUpload"].Nodup := by decide
  exact Members.get?_parts (show (rule.jsonParts.map Prod.fst).Nodup from nodup) key

/-- The switch that a status stands for. -/
def enabledOf? (status : Json) : Option Json :=
  if status = .str "Enabled" then some (.bool true)
  else if status = .str "Disabled" then some (.bool false)
  else none

/-- The rule that a document stands for. -/
def ofJson? : Json → Option LifecycleRule
  | .obj members => do
      let part := Members.get? members
      let id ← part "ID"
      let enabled ← (part "Status").bind enabledOf?
      let keyPrefix ← (part "Filter").bind fun filter => Json.valueIn? "Prefix" (some filter)
      let transitions ← Json.listIn? (Transition.ofJson? "Days") (part "Transitions")
      let expirationDays ← Json.valueIn? "Days" (part "Expiration")
      let noncurrentTransitions ←
        Json.listIn? (Transition.ofJson? "NoncurrentDays") (part "NoncurrentVersionTransitions")
      let noncurrentExpirationDays ←
        Json.valueIn? "NoncurrentDays" (part "NoncurrentVersionExpiration")
      let abortUploadDays ←
        Json.valueIn? "DaysAfterInitiation" (part "AbortIncompleteMultipartUpload")
      return {
        id, enabled, keyPrefix, transitions, expirationDays, noncurrentTransitions,
        noncurrentExpirationDays, abortUploadDays }
  | _ => none

/-- A rule with a truth value for its switch is read back from its document. -/
theorem ofJson?_json {rule : LifecycleRule} {flag : Bool} (isSwitch : rule.enabled = .bool flag) :
    ofJson? rule.json = some rule := by
  have enabled : enabledOf? (.str (if rule.enabled.isGiven then "Enabled" else "Disabled")) =
      some rule.enabled := by
    rw [isSwitch]
    cases flag <;> decide
  have transitions (daysName : String) (different : daysName ≠ "StorageClass")
      (transitions : List Transition) :
      Json.listIn? (Transition.ofJson? daysName)
        (Json.listPart (Transition.json daysName) transitions) = some transitions :=
    Json.listIn?_listPart fun transition _ => transition.ofJson?_json different
  have filter : Json.valueIn? "Prefix" (some (.obj [("Prefix", rule.keyPrefix)])) =
      some rule.keyPrefix := rfl
  rw [json_eq]
  simp only [ofJson?, get?_parts_jsonParts]
  simp [jsonParts, Members.get?, enabled, filter, transitions, Json.valueIn?_valuePart]

/-! ## Accepted rules -/

/-- Nothing is wrong with the rule. -/
def IsAccepted (rule : LifecycleRule) : Prop := listErrors [] 0 [rule] = []

theorem isAccepted_iff {rule : LifecycleRule} :
    rule.IsAccepted ↔ (∃ name, rule.id = .str name ∧ name ≠ "") ∧ rule.IsSound := by
  simp only [IsAccepted, listErrors, List.append_nil, List.append_eq_nil_iff, errors_eq_nil_iff,
    Json.isText_iff, and_assoc]
  refine and_congr_right ?_
  rintro ⟨name, isName, nonempty⟩
  refine and_iff_left ?_
  simp [duplicateErrors, name?_eq_some_iff.mpr ⟨isName, nonempty⟩, Path.flag]

theorem isAccepted_of_mem {rules : List LifecycleRule} (accepted : listErrors [] 0 rules = []) :
    ∀ rule ∈ rules, rule.IsAccepted := by
  rcases listErrors_eq_nil_iff.mp accepted with ⟨⟨names, ids, -, nonempty⟩, sound⟩
  intro rule member
  have isId : rule.id ∈ names.map Tree.str := ids ▸ List.mem_map_of_mem member
  rcases List.mem_map.mp isId with ⟨name, isName, equal⟩
  exact isAccepted_iff.mpr ⟨⟨name, equal.symm, (nonempty name isName).1⟩, sound rule member⟩

/-- The rules are equal in all settings. -/
structure SameAs (left right : LifecycleRule) : Prop where
  id : left.id = right.id
  enabled : left.enabled = right.enabled
  keyPrefix : Json.Same left.keyPrefix right.keyPrefix
  transitions : left.transitions = right.transitions
  expirationDays : left.expirationDays = right.expirationDays
  noncurrentTransitions : left.noncurrentTransitions = right.noncurrentTransitions
  noncurrentExpirationDays : left.noncurrentExpirationDays = right.noncurrentExpirationDays
  abortUploadDays : left.abortUploadDays = right.abortUploadDays

private theorem eq_of_same_status {left right : Bool}
    (same : Json.Same (.str (if left then "Enabled" else "Disabled"))
      (.str (if right then "Enabled" else "Disabled"))) : left = right := by
  have texts := Json.eq_of_same_str same
  revert texts
  cases left <;> cases right <;> decide

theorem IsSound.expiration {rule : LifecycleRule} (sound : rule.IsSound) (schedule : Schedule) :
    schedule.expiration rule = .null ∨ ∃ days, schedule.expiration rule = .int days := by
  rcases sound.schedules schedule with ⟨-, -, -, -, isNull | ⟨days, isDays, -⟩⟩
  · exact .inl isNull
  · exact .inr ⟨days, isDays⟩

/-- Rules with equal documents are equal, if they are accepted. -/
theorem sameAs_of_same_json {left right : LifecycleRule} (leftAccepted : left.IsAccepted)
    (rightAccepted : right.IsAccepted) (same : Json.Same left.json right.json) :
    left.SameAs right := by
  rw [json_eq, json_eq] at same
  have rel (key : String) : Option.Rel Json.Same (Members.get? left.jsonParts key).join
      (Members.get? right.jsonParts key).join := by
    rw [← get?_parts_jsonParts, ← get?_parts_jsonParts]
    exact same.get? key
  rcases isAccepted_iff.mp leftAccepted with ⟨⟨name, isName, -⟩, leftSound⟩
  rcases isAccepted_iff.mp rightAccepted with ⟨⟨otherName, isOtherName, -⟩, rightSound⟩
  have named : left.id = right.id := by
    have ids : Json.Same left.id right.id := Option.rel_some_some.mp (rel "ID")
    rw [isName, isOtherName] at ids ⊢
    rw [Json.eq_of_same_str ids]
  have enabled : left.enabled = right.enabled := by
    rcases leftSound.enabled with ⟨flag, isFlag⟩
    rcases rightSound.enabled with ⟨otherFlag, isOtherFlag⟩
    have status := Option.rel_some_some.mp (rel "Status")
    rw [isFlag, isOtherFlag] at status ⊢
    have same : flag = otherFlag := eq_of_same_status status
    rw [same]
  have filter : Json.Same (.obj [("Prefix", left.keyPrefix)])
      (.obj [("Prefix", right.keyPrefix)]) :=
    Option.rel_some_some.mp (rel "Filter")
  exact
    { id := named
      enabled
      keyPrefix := Option.rel_some_some.mp (filter.get? "Prefix")
      transitions := Transition.eq_of_rel_listPart (by decide)
        (Transition.isPlain_of_isOrderly (leftSound.schedules .current))
        (Transition.isPlain_of_isOrderly (rightSound.schedules .current)) (rel "Transitions")
      expirationDays := Json.eq_of_rel_valuePart (leftSound.expiration .current)
        (rightSound.expiration .current) (rel "Expiration")
      noncurrentTransitions := Transition.eq_of_rel_listPart (by decide)
        (Transition.isPlain_of_isOrderly (leftSound.schedules .noncurrent))
        (Transition.isPlain_of_isOrderly (rightSound.schedules .noncurrent))
        (rel "NoncurrentVersionTransitions")
      noncurrentExpirationDays := Json.eq_of_rel_valuePart (leftSound.expiration .noncurrent)
        (rightSound.expiration .noncurrent) (rel "NoncurrentVersionExpiration")
      abortUploadDays := Json.eq_of_rel_valuePart
        (leftSound.abort.imp_right fun ⟨days, isDays, _⟩ => ⟨days, isDays⟩)
        (rightSound.abort.imp_right fun ⟨days, isDays, _⟩ => ⟨days, isDays⟩)
        (rel "AbortIncompleteMultipartUpload") }

/-! ## Lists of rules -/

/-- The rules that a document of several stands for. -/
def listOfJson? : Json → Option (List LifecycleRule)
  | .obj members => do
      let rules ← Members.get? members "Rules"
      Json.listIn? ofJson? (some rules)
  | _ => none

theorem listOfJson?_listJson {rules : List LifecycleRule}
    (accepted : ∀ rule ∈ rules, rule.IsAccepted) : listOfJson? (listJson rules) = some rules :=
  Json.mapM_map_eq_some fun rule member => by
    rcases isAccepted_iff.mp (accepted rule member) with ⟨-, sound⟩
    rcases sound.enabled with ⟨flag, isFlag⟩
    exact ofJson?_json isFlag

end LifecycleRule

/-! ## Artifacts -/

namespace Artifact

theorem exists_fields {artifact : Artifact} {fingerprint : String}
    (written : artifact.fingerprint = .ok fingerprint) :
    ∃ fields, artifact.fields = .ok fields := by
  rcases exists_documents written with ⟨documents, -, rendered, -⟩
  rw [fields_eq, Policy.document, rendered]
  exact ⟨_, rfl⟩

theorem get?_fields_lifecycle {artifact : Artifact} {fields : List (String × Document)}
    (isFields : artifact.fields = .ok fields) :
    Members.get? fields "lifecycle" = artifact.lifecycleJson?.map Document.ofJson := by
  rw [fields_eq] at isFields
  rcases Except.map_eq_ok_iff.mp isFields with ⟨policy, -, rfl⟩
  have atSettings : Members.get? artifact.settings "lifecycle" = artifact.lifecycleJson? := by
    simp [settings, Members.get?_append, Members.get?_optional]
  exact (Members.get?_map Document.ofJson artifact.settings "lifecycle").trans
    (congrArg (Option.map Document.ofJson) atSettings)

end Artifact

/-- An accepted rule is read back from its document, and accepted rules with equal documents are
equal. An artifact has a lifecycle part exactly if its configuration has lifecycle rules, and from
that part the rules are read in their order. -/
theorem LifecycleRule.read_back :
    (∀ rule : LifecycleRule, rule.IsAccepted → ofJson? rule.json = some rule) ∧
      (∀ left right : LifecycleRule, left.IsAccepted → right.IsAccepted →
        Json.Same left.json right.json → left.SameAs right) ∧
      ∀ (strict traced : Bool) (configuration : Configuration) (artifact : Artifact)
        (fingerprint : String),
        (configuration.compile strict traced).result = .ok (artifact, fingerprint) →
          ∃ fields part?, artifact.fields = .ok fields ∧
            Members.get? fields "lifecycle" = part?.map Document.ofJson ∧
            (part? = none ↔ configuration.lifecycleRules = []) ∧
            ∀ part ∈ part?, listOfJson? part = some configuration.lifecycleRules := by
  refine ⟨fun rule accepted => ?_, fun left right => sameAs_of_same_json,
    fun strict traced configuration artifact fingerprint compiled => ?_⟩
  · rcases isAccepted_iff.mp accepted with ⟨-, sound⟩
    rcases sound.enabled with ⟨flag, isFlag⟩
    exact ofJson?_json isFlag
  · rcases Configuration.compile_eq_ok_iff.mp compiled with ⟨noErrors, isArtifact, written⟩
    have accepted := isAccepted_of_mem (Configuration.errors_eq_nil_iff.mp noErrors).2.2.2.2.1
    have kept : artifact.lifecycleRules = configuration.lifecycleRules := by
      rcases Option.map_eq_some_iff.mp isArtifact with ⟨statements, -, rfl⟩
      rfl
    rcases Artifact.exists_fields written with ⟨fields, isFields⟩
    refine ⟨fields, artifact.lifecycleJson?, isFields, Artifact.get?_fields_lifecycle isFields, ?_⟩
    rw [Artifact.lifecycleJson?, kept]
    split
    next isEmpty =>
      refine ⟨iff_of_true rfl (List.isEmpty_iff.mp isEmpty), fun part isPart => ?_⟩
      contradiction
    next notEmpty =>
      refine ⟨iff_of_false (Option.some_ne_none _) (mt List.isEmpty_iff.mpr notEmpty),
        fun part isPart => ?_⟩
      cases isPart
      exact listOfJson?_listJson accepted

namespace LifecycleRule

private def retention : LifecycleRule :=
  { id := .str "retention"
    enabled := .bool false
    keyPrefix := .str "audit/"
    transitions := [⟨.int 30, .str "STANDARD_IA"⟩, ⟨.int 90, .str "GLACIER"⟩]
    expirationDays := .int 365
    noncurrentTransitions := [⟨.int 30, .str "GLACIER"⟩]
    noncurrentExpirationDays := .null
    abortUploadDays := .int 7 }

private theorem isAccepted_retention : retention.IsAccepted :=
  show listErrors [] 0 [retention] = [] by decide +kernel

private def unbounded : LifecycleRule := { retention with expirationDays := .null }

private def archive : Configuration :=
  { name := .str "archive", environment := .str "prod"
    encryptionKey := .str
      "arn:aws:kms:us-east-1:123456789012:key/12345678-1234-1234-1234-123456789012"
    loggingBucket := .null, loggingPrefix := .null, lockEnabled := .bool false, lock := none
    trustedPrincipals := [], trustedActions := none
    lifecycleRules := [retention, { unbounded with id := .str "unbounded" }]
    statements := [], corsRules := [], tags := [] }

theorem read_back_of_archive :
    ofJson? retention.json = some retention ∧ ¬Json.Same retention.json unbounded.json ∧
      ∃ (artifact : Artifact) (fields : List (String × Document)) (part : Json),
        artifact.fields = .ok fields ∧
        Members.get? fields "lifecycle" = some (Document.ofJson part) ∧
        listOfJson? part = some archive.lifecycleRules := by
  refine ⟨read_back.1 retention isAccepted_retention, fun same => ?_, ?_⟩
  · have isAccepted : unbounded.IsAccepted :=
      show listErrors [] 0 [unbounded] = [] by decide +kernel
    have alike := read_back.2.1 retention unbounded isAccepted_retention isAccepted same
    exact absurd alike.expirationDays (by decide)
  · have compiles : (archive.compile true false).result.isOk := by decide +kernel
    cases compiled : (archive.compile true false).result with
    | error failure =>
        rw [compiled] at compiles
        contradiction
    | ok result =>
        rcases read_back.2.2 true false archive result.1 result.2 compiled with
          ⟨fields, part?, isFields, found, absent, reads⟩
        cases part? with
        | none => exact absurd (absent.mp rfl) (by decide)
        | some part => exact ⟨result.1, fields, part, isFields, found, reads part rfl⟩

end LifecycleRule

end BucketGuard
