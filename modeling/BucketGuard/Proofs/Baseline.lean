import BucketGuard.Proofs.Acceptance
import BucketGuard.Proofs.ArtifactText
import BucketGuard.Proofs.Compilation

namespace BucketGuard

/-! The baseline end to end. Whatever a specification asks for, the policy that is compiled from it
consists of the statements of the baseline, of the one for trusted principals where there are any,
and of the custom statements behind them, in their order. -/

/-! ## The statements of the baseline as documents -/

namespace Policy

def denialDocument (sid action : String) (resources : List String) (test key : String)
    (value : Json) : Document :=
  .ofFields [("Sid", .str sid), ("Effect", .str "Deny"), ("Principal", .str "*"),
    ("Action", .arr [.str action]), ("Resource", .texts resources),
    ("Condition", .obj [(.str test, .obj [(.str key, .arr [Document.ofJson value])])])]

def transportDenial (bucket : String) : Document :=
  denialDocument "DenyInsecureTransport" "s3:*" [bucket, bucket ++ "/*"]
    "Bool" "aws:SecureTransport" (.str "false")

def unencryptedDenial (bucket : String) : Document :=
  denialDocument "DenyUnencryptedObjectUploads" "s3:PutObject" [bucket ++ "/*"]
    "StringNotEquals" "s3:x-amz-server-side-encryption" (.str "aws:kms")

def wrongKeyDenial (bucket key : String) : Document :=
  denialDocument "DenyIncorrectEncryptionKey" "s3:PutObject" [bucket ++ "/*"]
    "StringNotEqualsIfExists" "s3:x-amz-server-side-encryption-aws-kms-key-id" (.str key)

def trustedAllowance (bucket : String) (identifiers actions : List Json) : Document :=
  .ofFields [("Sid", .str "AllowTrustedPrincipals"), ("Effect", .str "Allow"),
    ("Principal", .obj [(.str "AWS", .arr (identifiers.map Document.ofJson))]),
    ("Action", .arr (actions.map Document.ofJson)), ("Resource", .texts [bucket, bucket ++ "/*"])]

private theorem denial_document (sid action : String) (resources : List String)
    (test key : String) (value : Json) :
    (denial sid action resources
        { test := .str test, key := .str key, values := [value] }).document =
      .ok (denialDocument sid action resources test key value) := by
  have texts : (resources.map Tree.str).map Document.ofJson = resources.map Tree.str := by
    rw [List.map_map]
    rfl
  simp [denial, denialDocument, Statement.document, Statement.part, PrincipalSet.document,
    Condition.document, Condition.grouped, Condition.addValues, Members.extend, Json.key,
    Document.ofJson, Tree.texts, texts, bind, Except.bind, pure, Except.pure]

theorem denyInsecureTransport_document (partition name : String) :
    (denyInsecureTransport (BucketArn.ofName partition name)).document =
      .ok (transportDenial s!"arn:{partition}:s3:::{name}") := denial_document ..

theorem denyUnencryptedUploads_document (partition name : String) :
    (denyUnencryptedUploads (BucketArn.ofName partition name)).document =
      .ok (unencryptedDenial s!"arn:{partition}:s3:::{name}") := denial_document ..

theorem denyIncorrectKey_document (partition name key : String) :
    (denyIncorrectKey (BucketArn.ofName partition name) (.str key)).document =
      .ok (wrongKeyDenial s!"arn:{partition}:s3:::{name}" key) := denial_document ..

/-- Actions that are given are the ones that are allowed. -/
theorem allowTrusted_document (partition name : String) (identifiers : List Json)
    {actions : Option (List Json)} (notEmpty : actions ≠ some []) :
    (allowTrusted (BucketArn.ofName partition name) identifiers actions).document =
      .ok (trustedAllowance s!"arn:{partition}:s3:::{name}" identifiers
        (actions.getD (defaultTrustedActions.map .str))) := by
  have allowed : (allowTrusted (BucketArn.ofName partition name) identifiers actions).actions =
      actions.getD (defaultTrustedActions.map .str) := by
    unfold allowTrusted
    split
    · rfl
    · contradiction
    · rfl
  rw [Statement.document, allowed]
  simp [allowTrusted, trustedAllowance, Sid.trustedPrincipals, BucketArn.ofName, Statement.part,
    PrincipalSet.document, PrincipalSet.grouped, PrincipalSet.wildcard, Members.extend, Json.key,
    Document.ofJson, Tree.texts, bind, Except.bind, pure, Except.pure]

end Policy

/-! ## Statements in a row -/

namespace Policy

/-- The documents are those of the statements, one by one, and each statement without a name takes
the one of its position, from a first position on. -/
structure Renders (position : Nat) (statements : List Statement) (documents : List Document) :
    Prop where
  length : documents.length = statements.length
  each : ∀ (index : Nat) (statement : Statement), statements[index]? = some statement →
    ∃ document, documents[index]? = some document ∧
      (if statement.sid = .null then
        { statement with sid := .str s!"CustomStatement{position + index}" }
      else statement).document = .ok document

theorem renders_customFrom {index : Nat} {statements : List Statement}
    {documents : List Document}
    (rendered : Policy.documents (customFrom index statements) = .ok documents) :
    Renders (index + 1) statements documents := by
  induction statements generalizing index documents with
  | nil =>
      cases rendered
      exact ⟨rfl, fun index statement found => nomatch found⟩
  | cons statement rest induction =>
      rw [customFrom, documents_cons_eq_ok_iff] at rendered
      rcases rendered with ⟨first, others, isFirst, areOthers, rfl⟩
      have later := induction areOthers
      refine ⟨congrArg Nat.succ later.length, fun place other found => ?_⟩
      cases place with
      | zero =>
          cases found
          exact ⟨first, rfl, isFirst⟩
      | succ place =>
          rcases later.each place other found with ⟨document, isThere, isOther⟩
          rw [Nat.add_right_comm, Nat.add_assoc] at isOther
          exact ⟨document, isThere, isOther⟩

end Policy

/-! ## Whole policies -/

namespace Policy

theorem documents_statements {configuration : Configuration} {partition name key : String}
    (isKey : configuration.encryptionKey = .str key)
    (notEmpty : configuration.trustedActions ≠ some []) {documents : List Document}
    (rendered : Policy.documents
      ((statements (BucketArn.ofName partition name) configuration).map Prod.snd) =
        .ok documents) :
    ∃ custom, Renders 1 configuration.statements custom ∧
      documents =
        [transportDenial s!"arn:{partition}:s3:::{name}"] ++
          (if configuration.trustedPrincipals = [] then []
          else
            [trustedAllowance s!"arn:{partition}:s3:::{name}" configuration.trustedPrincipals
              (configuration.trustedActions.getD (defaultTrustedActions.map .str))]) ++
          [unencryptedDenial s!"arn:{partition}:s3:::{name}",
            wrongKeyDenial s!"arn:{partition}:s3:::{name}" key] ++ custom := by
  rw [map_snd_statements, isKey, documents_append_eq_ok_iff] at rendered
  rcases rendered with ⟨baseline, custom, isBaseline, isCustom, rfl⟩
  refine ⟨custom, renders_customFrom isCustom, congrArg (· ++ custom) ?_⟩
  rcases documents_append_eq_ok_iff.mp isBaseline with ⟨front, uploads, isFront, isUploads, rfl⟩
  rcases documents_append_eq_ok_iff.mp isFront with
    ⟨transport, trusted, isTransport, isTrusted, rfl⟩
  simp only [Policy.documents, denyInsecureTransport_document,
    denyUnencryptedUploads_document, denyIncorrectKey_document, bind, Except.bind, pure,
    Except.pure, Except.ok.injEq] at isTransport isUploads
  rw [← isTransport, ← isUploads]
  congr 2
  by_cases none : configuration.trustedPrincipals = []
  · rw [none] at isTrusted ⊢
    exact (Except.ok.inj isTrusted).symm
  · have some : configuration.trustedPrincipals.isEmpty = false := by
      rw [List.isEmpty_eq_false_iff]
      exact none
    rw [some] at isTrusted
    simp only [Bool.false_eq_true, if_false, Policy.documents,
      allowTrusted_document _ _ _ notEmpty, bind, Except.bind, pure, Except.pure,
      Except.ok.injEq] at isTrusted
    rw [if_neg none, ← isTrusted]

private def archive : List (String × Json) :=
  [("name", .str "archive"), ("environment", .str "prod"),
    ("encryption", .obj [("kmsKeyId",
      .str "arn:aws-cn:kms:cn-north-1:123456789012:key/12345678-1234-1234-1234-123456789012")]),
    ("trustedPrincipals", .obj [("identifiers", .str "arn:aws-cn:iam::123456789012:root")]),
    ("policy", .obj [("statements", .arr [.obj [("effect", .str "Deny"),
      ("actions", .str "s3:DeleteObject"), ("resources", .str "*")]])])]

end Policy

end BucketGuard
