import BucketGuard.Proofs.WrittenPolicy

namespace BucketGuard

/-! Artifacts that are written with their fingerprint, read again and written without it. The text
that comes out is the one that was fingerprinted, exactly where the keys of the policy stand in the
order of their texts. Nothing about the digest is used but that it is a text. -/

/-! ## Members without a key -/

namespace Members

variable {κ α : Type} [DecidableEq κ]

def without (members : List (κ × α)) (key : κ) : List (κ × α) := members.filter (·.1 ≠ key)

theorem without_sublist (members : List (κ × α)) (key : κ) :
    (without members key).Sublist members := List.filter_sublist

/-- A member that stands behind the others can as well be left out before the members are sorted. -/
theorem without_sortBy_append {less : κ → κ → Bool} (isOrder : IsOrder less)
    {members : List (κ × α)} (nodup : (members.map Prod.fst).Nodup) {key : κ}
    (fresh : key ∉ members.map Prod.fst) (value : α) :
    without (sortBy less (members ++ [(key, value)])) key = sortBy less members := by
  have others : without (members ++ [(key, value)]) key = members := by
    rw [without, List.filter_append]
    have kept : members.filter (·.1 ≠ key) = members := by
      refine List.filter_eq_self.mpr fun member isMember => decide_eq_true ?_
      exact fun same => fresh (List.mem_map.mpr ⟨member, isMember, same⟩)
    rw [kept]
    simp
  have perm : (without (sortBy less (members ++ [(key, value)])) key).Perm members := by
    have perm := (sortBy_perm less (members ++ [(key, value)])).filter (·.1 ≠ key)
    rwa [← without, ← without, others] at perm
  have sorted : Sorted less (without (sortBy less (members ++ [(key, value)])) key) :=
    (sorted_sortBy isOrder _).sublist (without_sublist _ key)
  rw [← sortBy_of_sorted sorted]
  exact sortBy_eq_of_perm isOrder perm ((perm.map Prod.fst).nodup_iff.mpr nodup)

end Members

/-! ## Settings -/

namespace Json

variable {names : List String} {members : List (String × Json)}

theorem wellFormed_of_within (within : Members.Within names WellFormed members)
    (distinct : names.Nodup) : WellFormed (.obj members) :=
  .obj (within.nodup distinct) within.values

theorem givenField_within (name : String) {value : Json} {render : Json → Json}
    (wellFormed : (render value).WellFormed) :
    Members.Within [name] WellFormed (givenField name value render) := by
  rw [givenField]
  split
  · exact Members.Within.nil.skip name
  · exact Members.Within.nil.cons wellFormed

theorem listField_within {α : Type} (name : String) {items : List α} {render : α → Json}
    (wellFormed : ∀ item ∈ items, (render item).WellFormed) :
    Members.Within [name] WellFormed (listField name items render) := by
  rw [listField]
  split
  · exact Members.Within.nil.skip name
  · exact Members.Within.nil.cons (.arr (List.forall_mem_map.mpr wellFormed))

theorem wellFormed_singleton (name : String) {value : Json} (wellFormed : value.WellFormed) :
    WellFormed (.obj [(name, value)]) :=
  wellFormed_of_within (Members.Within.nil.cons wellFormed) (List.nodup_singleton name)

end Json

theorem Transition.WellFormed.json {transition : Transition} (wellFormed : transition.WellFormed)
    {daysName : String} (different : daysName ≠ "StorageClass") :
    (transition.json daysName).WellFormed :=
  Json.wellFormed_of_within
    ((Members.Within.nil.cons wellFormed.storageClass).cons wellFormed.afterDays) (by simp [different])

theorem LifecycleRule.WellFormed.json {rule : LifecycleRule} (wellFormed : rule.WellFormed) :
    rule.json.WellFormed := by
  have filter := Json.wellFormed_singleton "Prefix" wellFormed.keyPrefix
  have head : Members.Within ["ID", "Status", "Filter"] Json.WellFormed
      [("ID", rule.id), ("Status", .str (if rule.enabled.isGiven then "Enabled" else "Disabled")),
        ("Filter", .obj [("Prefix", rule.keyPrefix)])] :=
    ((Members.Within.nil.cons filter).cons (Json.wellFormed_str _)).cons wellFormed.id
  have period (name daysName : String) {days : Json} (wellFormed : days.WellFormed) :
      Members.Within [name] Json.WellFormed
        (Json.givenField name days fun days => .obj [(daysName, days)]) :=
    Json.givenField_within name (Json.wellFormed_singleton daysName wellFormed)
  have transitions := Json.listField_within "Transitions" fun transition member =>
    (wellFormed.transitions transition member).json (show "Days" ≠ _ by decide)
  have expiration := period "Expiration" "Days" wellFormed.expirationDays
  have noncurrentTransitions := Json.listField_within "NoncurrentVersionTransitions"
    fun transition member => (wellFormed.noncurrentTransitions transition member).json
      (show "NoncurrentDays" ≠ _ by decide)
  have noncurrentExpiration := period "NoncurrentVersionExpiration" "NoncurrentDays"
    wellFormed.noncurrentExpirationDays
  have abortUpload := period "AbortIncompleteMultipartUpload" "DaysAfterInitiation"
    wellFormed.abortUploadDays
  exact Json.wellFormed_of_within (((((head.append transitions).append expiration).append
    noncurrentTransitions).append noncurrentExpiration).append abortUpload) (by decide)

theorem ObjectLock.WellFormed.json {lock : ObjectLock} (wellFormed : lock.WellFormed) :
    lock.json.WellFormed := by
  have retention : Json.WellFormed (.obj [("Mode", lock.mode), ("Days", lock.retentionDays)]) :=
    Json.wellFormed_of_within
      ((Members.Within.nil.cons wellFormed.retentionDays).cons wellFormed.mode) (by decide)
  have rule := Json.wellFormed_singleton "DefaultRetention" retention
  exact Json.wellFormed_of_within
    ((Members.Within.nil.cons rule).cons (Json.wellFormed_str "Enabled")) (by decide)

theorem CorsRule.WellFormed.json {rule : CorsRule} (wellFormed : rule.WellFormed) :
    rule.json.WellFormed := by
  have head : Members.Within ["AllowedOrigins", "AllowedMethods"] Json.WellFormed
      [("AllowedOrigins", .arr rule.allowedOrigins), ("AllowedMethods", .arr rule.allowedMethods)] :=
    (Members.Within.nil.cons (.arr wellFormed.allowedMethods)).cons (.arr wellFormed.allowedOrigins)
  have allowedHeaders := Json.listField_within "AllowedHeaders" wellFormed.allowedHeaders
  have exposedHeaders := Json.listField_within "ExposeHeaders" wellFormed.exposedHeaders
  have maxAge : Members.Within ["MaxAgeSeconds"] Json.WellFormed
      (Json.givenField "MaxAgeSeconds" rule.maxAgeSeconds id) :=
    Json.givenField_within _ wellFormed.maxAgeSeconds
  exact Json.wellFormed_of_within
    (((head.append allowedHeaders).append exposedHeaders).append maxAge) (by decide)

/-! ## The artifact -/

namespace Artifact

variable {artifact : Artifact}

private theorem lifecycleJson?_wellFormed (wellFormed : artifact.WellFormed) :
    ∀ value ∈ artifact.lifecycleJson?, value.WellFormed := by
  intro value isValue
  rw [lifecycleJson?] at isValue
  split at isValue
  · contradiction
  · cases isValue
    exact Json.wellFormed_singleton "Rules" (.arr (List.forall_mem_map.mpr fun rule member =>
      (wellFormed.lifecycleRules rule member).json))

private theorem lockJson?_wellFormed (wellFormed : artifact.WellFormed) :
    ∀ value ∈ artifact.lockJson?, value.WellFormed := by
  intro value isValue
  rcases Option.mem_map.mp isValue with ⟨lock, isLock, rfl⟩
  exact (wellFormed.lock lock isLock).json

private theorem loggingJson?_wellFormed (wellFormed : artifact.WellFormed) :
    ∀ value ∈ artifact.loggingJson? "targetBucket" "targetPrefix", value.WellFormed := by
  intro value isValue
  rw [loggingJson?] at isValue
  split at isValue
  · cases isValue
    have logPrefix : (if artifact.loggingPrefix.isGiven then artifact.loggingPrefix
        else .str "" : Json).WellFormed := by
      split
      · exact wellFormed.loggingPrefix
      · exact Json.wellFormed_str ""
    exact Json.wellFormed_of_within
      ((Members.Within.nil.cons logPrefix).cons wellFormed.loggingBucket) (by decide)
  · contradiction

private theorem corsJson?_wellFormed (wellFormed : artifact.WellFormed) :
    ∀ value ∈ artifact.corsJson?, value.WellFormed := by
  intro value isValue
  rw [corsJson?] at isValue
  split at isValue
  · contradiction
  · cases isValue
    exact Json.wellFormed_singleton "CORSRules" (.arr (List.forall_mem_map.mpr fun rule member =>
      (wellFormed.corsRules rule member).json))

theorem settings_wellFormed (wellFormed : artifact.WellFormed) :
    ∀ setting ∈ artifact.settings, setting.2.WellFormed := by
  have lifecycle := Members.Within.optional "lifecycle" (lifecycleJson?_wellFormed wellFormed)
  have lock := Members.Within.optional "objectLock" (lockJson?_wellFormed wellFormed)
  have logging := Members.Within.optional "logging" (loggingJson?_wellFormed wellFormed)
  have cors := Members.Within.optional "cors" (corsJson?_wellFormed wellFormed)
  exact (((lifecycle.append lock).append logging).append cors).values

/-- The artifact as a value, once its policy is one. -/
def value (policy : Json) (artifact : Artifact) : Json :=
  .obj (Members.sortBy Json.keyLess (artifact.values policy))

/-- The artifact as a value with its fingerprint in it. -/
def sealedValue (policy : Json) (fingerprint : String) (artifact : Artifact) : Json :=
  .obj (Members.sortBy Json.keyLess
    (artifact.values policy ++ [("fingerprint", .str fingerprint)]))

private theorem fresh_fingerprint (policy : Json) (artifact : Artifact) :
    "fingerprint" ∉ (artifact.values policy).map Prod.fst := fun member =>
  absurd ((keys_values_sublist policy artifact).subset member) (by decide)

theorem forall_values_iff {holds : Json → Prop} {policy : Json} :
    (∀ member ∈ artifact.values policy, holds member.2) ↔
      holds (.str artifact.bucket) ∧ holds artifact.encryptionField.ordered ∧ holds policy ∧
        ∀ setting ∈ artifact.settings, holds setting.2.ordered := by
  rw [values, List.forall_mem_cons, List.forall_mem_cons, List.forall_mem_cons,
    List.forall_mem_map]

theorem values_wellFormed (wellFormed : artifact.WellFormed) {policy : Json}
    (ofPolicy : policy.WellFormed) : ∀ member ∈ artifact.values policy, member.2.WellFormed :=
  forall_values_iff.mpr ⟨Json.wellFormed_str _,
    (Json.wellFormed_singleton "kmsKeyId" wellFormed.encryptionKey).ordered, ofPolicy,
    fun setting member => (settings_wellFormed wellFormed setting member).ordered⟩

private theorem wellFormed_sorted {members : List (String × Json)}
    (nodup : (members.map Prod.fst).Nodup) (values : ∀ member ∈ members, member.2.WellFormed) :
    Json.WellFormed (.obj (Members.sortBy Json.keyLess members)) := by
  have perm := Members.sortBy_perm Json.keyLess members
  exact .obj ((perm.map Prod.fst).nodup_iff.mpr nodup) fun member isMember =>
    values member (perm.mem_iff.mp isMember)

theorem value_wellFormed (wellFormed : artifact.WellFormed) {policy : Json}
    (ofPolicy : policy.WellFormed) : (artifact.value policy).WellFormed :=
  wellFormed_sorted (artifact.values_nodup policy) (values_wellFormed wellFormed ofPolicy)

theorem sealedValue_wellFormed (wellFormed : artifact.WellFormed) {policy : Json}
    (ofPolicy : policy.WellFormed) (fingerprint : String) :
    (artifact.sealedValue policy fingerprint).WellFormed := by
  refine wellFormed_sorted ?_ (List.forall_mem_append.mpr
    ⟨values_wellFormed wellFormed ofPolicy,
      List.forall_mem_singleton.mpr (Json.wellFormed_str fingerprint)⟩)
  rw [List.map_append, List.nodup_append]
  refine ⟨artifact.values_nodup policy, List.nodup_singleton _, fun name isName last isLast same => ?_⟩
  rw [same, List.mem_singleton.mp isLast] at isName
  exact fresh_fingerprint policy artifact isName

/-- The members of an artifact stand in order if those of its policy do. -/
theorem value_ascending_iff {policy : Json} :
    (artifact.value policy).Ascending ↔ policy.Ascending := by
  have perm := Members.sortBy_perm Json.keyLess (artifact.values policy)
  have names : ((Members.sortBy Json.keyLess (artifact.values policy)).map Prod.fst).Pairwise
      (· ≤ ·) := Json.sorted_iff.mp (Members.sorted_sortBy Json.isOrder_keyLess _)
  refine Tree.every_obj_iff.trans ((and_iff_right names).trans ?_)
  have members : (∀ member ∈ Members.sortBy Json.keyLess (artifact.values policy),
      Json.Ascending member.2) ↔ ∀ member ∈ artifact.values policy, Json.Ascending member.2 :=
    forall_congr' fun _ => by rw [perm.mem_iff]
  rw [members, forall_values_iff]
  exact ⟨fun ⟨_, _, ofPolicy, _⟩ => ofPolicy, fun ofPolicy => ⟨.leaf trivial,
    Json.ascending_ordered _, ofPolicy, fun _ _ => Json.ascending_ordered _⟩⟩

/-! ## Sealing -/

theorem canonical_eq_ok_iff {text : String} :
    artifact.canonical = .ok text ↔ ∃ document policy,
      Policy.document artifact.statements = .ok document ∧ document.ordered = .ok policy ∧
        text = (artifact.value policy).print .compact := by
  rw [canonical_eq, Except.map_eq_ok_iff]
  constructor
  · rintro ⟨policy, isPolicy, rfl⟩
    rcases Except.bind_eq_ok_iff.mp isPolicy with ⟨document, isDocument, isPolicy⟩
    exact ⟨document, policy, isDocument, isPolicy, rfl⟩
  · rintro ⟨document, policy, isDocument, isPolicy, rfl⟩
    exact ⟨policy, Except.bind_eq_ok_iff.mpr ⟨document, isDocument, isPolicy⟩, rfl⟩

theorem sealed_eq {document : Document} {policy : Json} {fingerprint : String}
    (isDocument : Policy.document artifact.statements = .ok document)
    (isPolicy : document.ordered = .ok policy)
    (written : artifact.fingerprint = .ok fingerprint) (layout : Json.Layout) :
    artifact.sealed layout = .ok ((artifact.sealedValue policy fingerprint).print layout) := by
  rw [Artifact.sealed, fields_eq, isDocument, written]
  change Document.canonical layout (.ofFields (_ ++ [_])) = _
  rw [Document.canonical, Document.ordered_ofFields, Document.orderedFields_append,
    orderedFields_eq, isPolicy]
  rfl

/-! ## Opening -/

/-- What a reader finds in a written artifact: the fingerprint in it, and the canonical text of all
the rest. -/
structure Opened where
  fingerprint : Json
  rest : String
  deriving DecidableEq, Repr

def opened? (output : String) : Option Opened :=
  match Json.read output.toList with
  | .ok (.obj members) =>
      (Members.get? members "fingerprint").map fun fingerprint =>
        { fingerprint
          rest := Json.canonical .compact (.obj (Members.without members "fingerprint")) }
  | _ => none

/-- A sealed artifact holds the fingerprint of its canonical text. The rest of it has that text
again exactly where the keys of the policy stand in the order of their texts. -/
theorem opened?_sealed (wellFormed : artifact.WellFormed) {text : String}
    (canonical : artifact.canonical = .ok text) {layout : Json.Layout} (blank : layout.IsBlank)
    {space : String} (isBlank : Json.Blank space.toList) :
    ∃ output rest, artifact.sealed layout = .ok output ∧
      opened? (output ++ space) = some { fingerprint := .str (Digest.sha256 text), rest } ∧
      (rest = text ↔ ∀ statement ∈ artifact.statements, statement.KeysAscend) := by
  rcases canonical_eq_ok_iff.mp canonical with ⟨document, policy, isDocument, isPolicy, isText⟩
  have ofDocument := Policy.document_wellFormed wellFormed.statements isDocument
  have ofPolicy : policy.WellFormed := ofDocument.ordered isPolicy
  have sealed := sealed_eq isDocument isPolicy (fingerprint_of_canonical canonical) layout
  have ofSealed := sealedValue_wellFormed wellFormed ofPolicy (Digest.sha256 text)
  have reading := Json.read_print ofSealed blank isBlank
  have found : Members.get? (Members.sortBy Json.keyLess
      (artifact.values policy ++ [("fingerprint", .str (Digest.sha256 text))])) "fingerprint" =
        some (.str (Digest.sha256 text)) := by
    have nodup := (Tree.every_obj_iff.mp ofSealed).1
    refine (Members.get?_eq_some_iff nodup).mpr ((Members.sortBy_perm _ _).mem_iff.mpr ?_)
    exact List.mem_append_right _ (List.mem_singleton.mpr rfl)
  have rest := Members.without_sortBy_append Json.isOrder_keyLess (artifact.values_nodup policy)
    (fresh_fingerprint policy artifact) (.str (Digest.sha256 text))
  refine ⟨_, (artifact.value policy).canonical .compact, sealed, ?_, ?_⟩
  · rw [opened?, String.toList_append, reading]
    simp only [sealedValue, found, rest]
    rfl
  · have compact : Json.Layout.compact.IsBlank := trivial
    rw [isText]
    exact (Json.canonical_eq_print_iff (value_wellFormed wellFormed ofPolicy) compact).trans
      (value_ascending_iff.trans ((Document.ascending_iff_of_ordered isPolicy).trans
        (Policy.document_ascending_iff isDocument)))

end Artifact

end BucketGuard
