import BucketGuard.Proofs.Json.Canonical
import BucketGuard.Proofs.Provisioning

namespace BucketGuard

/-! The canonical text of an artifact field by field. All fields but the policy are values, and the
policy is one once its keys have an order. -/

namespace Policy

theorem documents_eq_mapM (statements : List Statement) :
    documents statements = statements.mapM Statement.document := by
  induction statements with
  | nil => rfl
  | cons statement rest induction => rw [documents, induction, List.mapM_cons]

theorem documents_cons_eq_ok_iff {statement : Statement} {rest : List Statement}
    {rendered : List Document} :
    documents (statement :: rest) = .ok rendered ↔
      ∃ first others, statement.document = .ok first ∧ documents rest = .ok others ∧
        rendered = first :: others := by
  rw [documents_eq_mapM, documents_eq_mapM]
  exact Except.mapM_cons_eq_ok_iff

theorem documents_append_eq_ok_iff {earlier later : List Statement} {rendered : List Document} :
    documents (earlier ++ later) = .ok rendered ↔
      ∃ front back, documents earlier = .ok front ∧ documents later = .ok back ∧
        rendered = front ++ back := by
  rw [documents_eq_mapM, documents_eq_mapM, documents_eq_mapM]
  exact Except.mapM_append_eq_ok_iff

end Policy

namespace Artifact

def encryptionField (artifact : Artifact) : Json := .obj [("kmsKeyId", artifact.encryptionKey)]

/-- The fields that are there only where provisioning attaches something. -/
def settings (artifact : Artifact) : List (String × Json) :=
  Members.optional "lifecycle" artifact.lifecycleJson? ++
    Members.optional "objectLock" artifact.lockJson? ++
    Members.optional "logging" (artifact.loggingJson? "targetBucket" "targetPrefix") ++
    Members.optional "cors" artifact.corsJson?

theorem fields_eq (artifact : Artifact) :
    artifact.fields = (Policy.document artifact.statements).map fun policy =>
      ("bucket", .str artifact.bucket) ::
        ("encryption", Document.ofJson artifact.encryptionField) :: ("policy", policy) ::
        artifact.settings.map fun (name, value) => (name, Document.ofJson value) := by
  simp only [settings, lifecycleJson?, lockJson?, loggingJson?, corsJson?]
  rw [fields]
  cases Policy.document artifact.statements with
  | error fault => rfl
  | ok policy =>
      cases artifact.lifecycleRules.isEmpty <;> cases artifact.lock <;>
        cases artifact.loggingBucket.isGiven <;> cases artifact.corsRules.isEmpty <;> rfl

theorem document_eq (artifact : Artifact) :
    artifact.document = artifact.fields.map Document.ofFields := by
  rw [document]
  cases artifact.fields <;> rfl

/-- An artifact with a fingerprint has a document, and its policy holds its statements. -/
theorem exists_documents {artifact : Artifact} {fingerprint : String}
    (written : artifact.fingerprint = .ok fingerprint) :
    ∃ documents fields, Policy.documents artifact.statements = .ok documents ∧
      artifact.document = .ok (.ofFields fields) ∧
      Members.get? fields "policy" =
        some (.ofFields [("Version", .str "2012-10-17"), ("Statement", .arr documents)]) := by
  rw [Artifact.fingerprint, Except.bind_eq_ok_iff] at written
  rcases written with ⟨text, canonical, -⟩
  rw [Artifact.canonical, Except.bind_eq_ok_iff] at canonical
  rcases canonical with ⟨document, isDocument, -⟩
  rw [document_eq, fields_eq, Policy.document] at isDocument ⊢
  cases rendered : Policy.documents artifact.statements with
  | error fault =>
      rw [rendered] at isDocument
      contradiction
  | ok documents => exact ⟨documents, _, rfl, rfl, rfl⟩

/-- The fields as values, with a policy that is one already. -/
def values (policy : Json) (artifact : Artifact) : List (String × Json) :=
  ("bucket", .str artifact.bucket) :: ("encryption", artifact.encryptionField.ordered) ::
    ("policy", policy) ::
    artifact.settings.map fun (name, value) => (name, value.ordered)

theorem orderedFields_eq (policy : Document) (artifact : Artifact) :
    Document.orderedFields (("bucket", .str artifact.bucket) ::
        ("encryption", Document.ofJson artifact.encryptionField) :: ("policy", policy) ::
        artifact.settings.map fun (name, value) => (name, Document.ofJson value)) =
      policy.ordered.map fun policy => artifact.values policy := by
  have settings : Document.orderedFields (artifact.settings.map
      fun (name, value) => (name, Document.ofJson value)) =
        .ok (artifact.settings.map fun (name, value) => (name, value.ordered)) :=
    Document.orderedFields_ofJson fun member _ => Document.ordered_ofJson member.2
  simp only [Document.orderedFields, Document.ordered, Document.ordered_ofJson, settings]
  cases policy.ordered <;> rfl

theorem canonical_eq (artifact : Artifact) :
    artifact.canonical =
      (Policy.document artifact.statements >>= Document.ordered).map fun policy =>
        Json.print .compact (.obj (Members.sortBy Json.keyLess (artifact.values policy))) := by
  rw [canonical, document, fields_eq]
  cases Policy.document artifact.statements with
  | error fault => rfl
  | ok policy =>
      change Document.canonical .compact (Document.ofFields _) = Except.map _ policy.ordered
      rw [Document.canonical, Document.ordered_ofFields, orderedFields_eq]
      cases policy.ordered <;> rfl

theorem keys_values_sublist (policy : Json) (artifact : Artifact) :
    ((artifact.values policy).map Prod.fst).Sublist
      ["bucket", "encryption", "policy", "lifecycle", "objectLock", "logging", "cors"] := by
  have settings : (artifact.settings.map Prod.fst).Sublist
      (["lifecycle"] ++ ["objectLock"] ++ ["logging"] ++ ["cors"]) := by
    rw [Artifact.settings, List.map_append, List.map_append, List.map_append]
    exact (((Members.optional_sublist ..).append (Members.optional_sublist ..)).append
      (Members.optional_sublist ..)).append (Members.optional_sublist ..)
  have same : (artifact.values policy).map Prod.fst =
      ["bucket", "encryption", "policy"] ++ artifact.settings.map Prod.fst := by
    simp [values]
  rw [same]
  exact (List.Sublist.refl _).append settings

theorem values_nodup (policy : Json) (artifact : Artifact) :
    ((artifact.values policy).map Prod.fst).Nodup :=
  (keys_values_sublist policy artifact).nodup (by decide)

end Artifact

end BucketGuard
