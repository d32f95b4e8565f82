import BucketGuard.Proofs.FingerprintCoverage
import BucketGuard.Proofs.OrderedArtifact
import BucketGuard.Proofs.Reading
import BucketGuard.Proofs.ValidationSufficiency

namespace BucketGuard

/-! What the order of members in a specification decides. It decides neither what is accepted nor
where the errors stand. The values of conditions are read as text, and there alone the order of the
members of a value can be seen. -/

/-! ## Accepted specifications -/

theorem Rejection.orElse_cases {α β : Type} {left right : List FieldError}
    (same : paths left = paths right) (value : α) (other : β) :
    (Rejection.orElse left value = .ok value ∧ Rejection.orElse right other = .ok other) ∨
      ∃ first second, Rejection.orElse left value = .error first ∧
        Rejection.orElse right other = .error second ∧
        paths first.errors = paths second.errors := by
  cases left with
  | nil => cases right with
    | nil => exact .inl ⟨rfl, rfl⟩
    | cons first rest => contradiction
  | cons first rest => cases right with
    | nil => contradiction
    | cons other others => exact .inr ⟨_, _, rfl, rfl, same⟩

namespace Specification

private theorem judged_eq (specification : List (String × Json)) (strict : Bool) :
    judged specification strict =
      Rejection.orElse (shapedConfiguration specification).errors () >>= fun _ =>
        Rejection.orElse ((shapedConfiguration specification).value.errors strict)
          (shapedConfiguration specification).value := by
  rw [judged, configuration, Shaped.accepted]
  cases (shapedConfiguration specification).errors with
  | cons first rest => rfl
  | nil =>
      change (Rejection.orElse _ () >>= fun _ => .ok _) = Rejection.orElse _ _
      cases (shapedConfiguration specification).value.errors strict <;> rfl

/-- Specifications that agree are accepted as configurations of one outline, or rejected with errors
at the same paths. -/
theorem judged_of_agree {left right : List (String × Json)} (agree : FieldsAgree left right)
    (strict : Bool) :
    (∃ first second, judged left strict = .ok first ∧ judged right strict = .ok second ∧
        first = (shapedConfiguration left).value ∧ second = (shapedConfiguration right).value ∧
        first.outline = second.outline) ∨
      ∃ first second, judged left strict = .error first ∧ judged right strict = .error second ∧
        paths first.errors = paths second.errors := by
  have inStep := shapedConfiguration_inStep agree
  have errors := Configuration.paths_errors (shapedConfiguration left).value strict
  rw [inStep.value, Configuration.paths_errors] at errors
  rw [judged_eq, judged_eq, inStep.errors]
  cases (shapedConfiguration right).errors with
  | cons first rest => exact .inr ⟨_, _, rfl, rfl, rfl⟩
  | nil =>
      rcases Rejection.orElse_cases errors (shapedConfiguration right).value
        (shapedConfiguration left).value with
        ⟨ofRight, ofLeft⟩ | ⟨second, first, ofRight, ofLeft, same⟩
      · exact .inl ⟨_, _, ofLeft, ofRight, rfl, rfl, inStep.value⟩
      · exact .inr ⟨first, second, ofLeft, ofRight, same.symm⟩

/-- The values of the conditions of each statement, as they are read. -/
def conditionValues (specification : List (String × Json)) : List (List (List Json)) :=
  (shapedConfiguration specification).value.statements.map fun statement =>
    statement.conditions.map Condition.values

end Specification

/-! ## Statements of one outline -/

namespace Json

theorem areKeys_ordered_iff (values : List Json) :
    AreKeys (values.map ordered) ↔ AreKeys values := by
  refine exists_congr fun keys => and_congr_left' ?_
  induction values generalizing keys with
  | nil => exact Iff.rfl
  | cons value rest induction =>
      cases keys with
      | nil => simp
      | cons key keys =>
          rw [List.map_cons, List.map_cons, List.cons.injEq, List.cons.injEq, ordered_eq_leaf_iff,
            induction]

end Json

namespace Statement

theorem writable_outline_iff (statement : Statement) :
    statement.outline.Writable ↔ statement.Writable := by
  have kinds : statement.outline.principals.map PrincipalSet.kind =
      (statement.principals.map PrincipalSet.kind).map Json.ordered := by
    simp only [outline, ordered, List.map_map, Function.comp_def, PrincipalSet.ordered]
  have tests : statement.outline.conditions.map Condition.test =
      (statement.conditions.map Condition.test).map Json.ordered := by
    simp only [outline, List.map_map, Function.comp_def, Condition.outline, Condition.ordered]
  have hasTest (test : Scalar) (condition : Condition) :
      condition.outline.hasTest test = condition.hasTest test := by
    rw [Condition.hasTest, Condition.hasTest, Condition.outline, Condition.ordered]
    cases condition.test <;> rfl
  have keys (test : Scalar) :
      (statement.outline.conditions.filter (Condition.hasTest test)).map Condition.key =
        ((statement.conditions.filter (Condition.hasTest test)).map Condition.key).map
          Json.ordered := by
    have same : Condition.hasTest test ∘ Condition.outline = Condition.hasTest test :=
      funext (hasTest test)
    rw [outline, List.filter_map, same, List.map_map, List.map_map]
    rfl
  rw [writable_iff, writable_iff, kinds, tests]
  simp only [keys, Json.areKeys_ordered_iff]

/-- The conditions of an outline, given their values again. -/
private theorem ordered_eq (statement : Statement) :
    statement.ordered = { statement.outline with
      conditions := List.zipWith (fun condition values => { condition with values })
        statement.outline.conditions (statement.conditions.map Condition.values) } := by
  simp only [ordered, outline, List.zipWith_map, List.zipWith_self]
  rfl

/-- Statements of one outline are the same with their values ordered if their conditions have the
same values. -/
theorem ordered_eq_of_outline {left right : List Statement}
    (outlines : left.map outline = right.map outline)
    (values : left.map (fun statement => statement.conditions.map Condition.values) =
      right.map fun statement => statement.conditions.map Condition.values) :
    left.map ordered = right.map ordered := by
  have rebuilt (statements : List Statement) : statements.map ordered =
      List.zipWith
        (fun outline values => { outline with
          conditions := List.zipWith (fun condition values => { condition with values })
            outline.conditions values })
        (statements.map outline)
        (statements.map fun statement => statement.conditions.map Condition.values) := by
    rw [List.zipWith_map, List.zipWith_self]
    exact List.map_congr_left fun statement _ => ordered_eq statement
  rw [rebuilt, rebuilt, outlines, values]

end Statement

namespace Policy

theorem allowTrusted_ordered (arn : BucketArn) (principals : List Json)
    (actions : Option (List Json)) :
    (allowTrusted arn principals actions).ordered =
      allowTrusted arn (principals.map Json.ordered) (actions.map (·.map Json.ordered)) := by
  have defaults : (defaultTrustedActions.map Tree.str).map Json.ordered =
      defaultTrustedActions.map Tree.str := rfl
  cases actions with
  | none => simp [allowTrusted, Statement.ordered, PrincipalSet.ordered, Json.ordered, defaults]
  | some actions =>
      cases actions with
      | nil => simp [allowTrusted, Statement.ordered, PrincipalSet.ordered, Json.ordered, defaults]
      | cons action rest =>
          simp [allowTrusted, Statement.ordered, PrincipalSet.ordered, Json.ordered]

theorem customFrom_ordered (index : Nat) (statements : List Statement) :
    (customFrom index statements).map Statement.ordered =
      customFrom index (statements.map Statement.ordered) := by
  have named_ordered (index : Nat) (statement : Statement) :
      (named index statement).ordered = named index statement.ordered := by
    have sid : statement.ordered.sid = statement.sid.ordered := rfl
    simp only [named, sid, Json.ordered_eq_leaf_iff]
    split <;> rfl
  induction statements generalizing index with
  | nil => rfl
  | cons statement rest induction =>
      rw [customFrom, List.map_cons, List.map_cons, customFrom, named_ordered, induction]

theorem map_ordered_statements (arn : BucketArn) (configuration : Configuration) :
    ((statements arn configuration).map Prod.snd).map Statement.ordered =
      [denyInsecureTransport arn].map Statement.ordered ++
        (if (configuration.trustedPrincipals.map Json.ordered).isEmpty then []
        else
          [allowTrusted arn (configuration.trustedPrincipals.map Json.ordered)
            (configuration.trustedActions.map (·.map Json.ordered))]) ++
        [denyUnencryptedUploads arn, denyIncorrectKey arn configuration.encryptionKey].map
          Statement.ordered ++
        customFrom 0 (configuration.statements.map Statement.ordered) := by
  rw [map_snd_statements, List.map_append, List.map_append, List.map_append, customFrom_ordered,
    apply_ite (List.map Statement.ordered), ← allowTrusted_ordered, List.isEmpty_map]
  rfl

end Policy

namespace Configuration

theorem writable_iff_of_outline {left right : Configuration} (outlines : left.outline = right.outline) :
    (∀ statement ∈ left.statements, statement.Writable) ↔
      ∀ statement ∈ right.statements, statement.Writable := by
  have outlined (configuration : Configuration) :
      (∀ statement ∈ configuration.outline.statements, statement.Writable) ↔
        ∀ statement ∈ configuration.statements, statement.Writable := by
    rw [outline, List.forall_mem_map]
    exact forall₂_congr fun statement _ => statement.writable_outline_iff
  rw [← outlined left, outlines, outlined]

/-- Accepted configurations of one outline whose conditions have the same values have artifacts
that are the same with their values ordered. -/
theorem artifact_ordered_eq {left right : Configuration} {strict : Bool}
    (outlines : left.outline = right.outline)
    (values : left.statements.map (fun statement => statement.conditions.map Condition.values) =
      right.statements.map fun statement => statement.conditions.map Condition.values)
    (accepted : left.errors strict = []) :
    left.artifact?.map Artifact.ordered = right.artifact?.map Artifact.ordered := by
  rcases errors_eq_nil_iff.mp accepted with ⟨nameErrors, -, keyErrors, -⟩
  rcases exists_name nameErrors with ⟨name, isName⟩
  rcases exists_encryptionKey keyErrors with ⟨key, arn, isKey, parsed⟩
  have sameName : left.name.ordered = right.name.ordered := congrArg Configuration.name outlines
  have sameKey : left.encryptionKey.ordered = right.encryptionKey.ordered :=
    congrArg Configuration.encryptionKey outlines
  rw [isName, Json.ordered, eq_comm, Json.ordered_eq_leaf_iff] at sameName
  rw [isKey, Json.ordered, eq_comm, Json.ordered_eq_leaf_iff] at sameKey
  rw [artifact?, artifact?, policy?_of_accepted isName isKey parsed,
    policy?_of_accepted sameName sameKey parsed]
  have statements : ((Policy.statements (.ofName (String.ofList arn.partition) name) left).map
      Prod.snd).map Statement.ordered =
        ((Policy.statements (.ofName (String.ofList arn.partition) name) right).map
          Prod.snd).map Statement.ordered := by
    have trusted : left.trustedPrincipals.map Json.ordered =
        right.trustedPrincipals.map Json.ordered :=
      congrArg Configuration.trustedPrincipals outlines
    have actions : left.trustedActions.map (·.map Json.ordered) =
        right.trustedActions.map (·.map Json.ordered) :=
      congrArg Configuration.trustedActions outlines
    have custom : left.statements.map Statement.ordered = right.statements.map Statement.ordered :=
      Statement.ordered_eq_of_outline (congrArg Configuration.statements outlines) values
    rw [Policy.map_ordered_statements, Policy.map_ordered_statements, trusted, actions, custom,
      isKey, sameKey]
  have enabled : left.lockEnabled.isGiven = right.lockEnabled.isGiven := by
    have same : left.lockEnabled.ordered = right.lockEnabled.ordered :=
      congrArg Configuration.lockEnabled outlines
    rw [← Json.isGiven_ordered, same, Json.isGiven_ordered]
  have lock : left.lock.map ObjectLock.ordered = right.lock.map ObjectLock.ordered :=
    congrArg Configuration.lock outlines
  have lifecycle : left.lifecycleRules.map LifecycleRule.ordered =
      right.lifecycleRules.map LifecycleRule.ordered :=
    congrArg Configuration.lifecycleRules outlines
  have cors : left.corsRules.map CorsRule.ordered = right.corsRules.map CorsRule.ordered :=
    congrArg Configuration.corsRules outlines
  have loggingBucket : left.loggingBucket.ordered = right.loggingBucket.ordered :=
    congrArg Configuration.loggingBucket outlines
  have loggingPrefix : left.loggingPrefix.ordered = right.loggingPrefix.ordered :=
    congrArg Configuration.loggingPrefix outlines
  simp only [Option.map_some, Configuration.artifact, Artifact.ordered, statements, isName,
    sameName, isKey, sameKey, lifecycle, enabled, apply_ite (Option.map ObjectLock.ordered), lock,
    cors, loggingBucket, loggingPrefix]

end Configuration

namespace Session

open Specification (FieldsAgree judged)

/-- Specifications that agree compile alike: both are rejected with errors at the same paths, or
neither artifact has a text, or both have one. -/
theorem compile_of_agree {left right : List (String × Json)} (agree : FieldsAgree left right)
    (strict traced : Bool) :
    (∃ first second, (compile left strict traced).result = .error (.rejected first) ∧
        (compile right strict traced).result = .error (.rejected second) ∧
        paths first.errors = paths second.errors) ∨
      (∃ first second, (compile left strict traced).result = .error (.unwritable first) ∧
        (compile right strict traced).result = .error (.unwritable second)) ∨
      ∃ first second fingerprint otherFingerprint,
        (compile left strict traced).result = .ok (first, fingerprint) ∧
        (compile right strict traced).result = .ok (second, otherFingerprint) ∧
        (Specification.conditionValues left = Specification.conditionValues right →
          first.canonical = second.canonical ∧ fingerprint = otherFingerprint) := by
  rw [compile_eq_judged, compile_eq_judged]
  rcases Specification.judged_of_agree agree strict with
    ⟨first, second, ofLeft, ofRight, isFirst, isSecond, outlines⟩ |
      ⟨first, second, ofLeft, ofRight, same⟩
  · have accepted := (Specification.judged_eq_ok_iff.mp ofLeft).2
    have otherAccepted := (Specification.judged_eq_ok_iff.mp ofRight).2
    rw [ofLeft, ofRight]
    change _ ∨ (∃ _ _, first.accepted = _ ∧ second.accepted = _) ∨
      ∃ _ _ _ _, first.accepted = _ ∧ second.accepted = _ ∧ _
    right
    by_cases writable : ∀ statement ∈ first.statements, statement.Writable
    · rcases Configuration.accepted_of_writable accepted writable with
        ⟨artifact, text, canonical, compiled⟩
      rcases Configuration.accepted_of_writable otherAccepted
        ((Configuration.writable_iff_of_outline outlines).mp writable) with
        ⟨other, otherText, otherCanonical, otherCompiled⟩
      refine .inr ⟨_, _, _, _, compiled, otherCompiled, fun values => ?_⟩
      rw [Specification.conditionValues, Specification.conditionValues, ← isFirst,
        ← isSecond] at values
      have same := Configuration.artifact_ordered_eq outlines values accepted
      rw [(Configuration.accepted_eq_ok_iff.mp compiled).1,
        (Configuration.accepted_eq_ok_iff.mp otherCompiled).1] at same
      have canonicals : artifact.canonical = other.canonical := by
        rw [← Artifact.canonical_ordered, Option.some.inj same, Artifact.canonical_ordered]
      rw [canonical, otherCanonical] at canonicals
      rw [canonical, otherCanonical, Except.ok.inj canonicals]
      exact ⟨rfl, rfl⟩
    · rcases Configuration.accepted_of_not_writable accepted writable with ⟨fault, failed⟩
      rcases Configuration.accepted_of_not_writable otherAccepted
        (mt (Configuration.writable_iff_of_outline outlines).mpr writable) with
        ⟨otherFault, otherFailed⟩
      exact .inl ⟨fault, otherFault, failed, otherFailed⟩
  · rw [ofLeft, ofRight]
    exact .inl ⟨first, second, rfl, rfl, same⟩

/-- The specification is rejected with errors at these fields, in this order. -/
def RejectedAt (specification : List (String × Json)) (strict traced : Bool)
    (fields : List String) : Prop :=
  ∃ rejection, (compile specification strict traced).result = .error (.rejected rejection) ∧
    rejection.errors.map FieldError.field = fields

/-- The specification gives an artifact with this canonical text and this fingerprint. -/
def Gives (specification : List (String × Json)) (strict traced : Bool)
    (text fingerprint : String) : Prop :=
  ∃ artifact, (compile specification strict traced).result = .ok (artifact, fingerprint) ∧
    artifact.canonical = .ok text

private theorem gives_of_ok {specification : List (String × Json)} {strict traced : Bool}
    {artifact : Artifact} {fingerprint : String}
    (compiled : (compile specification strict traced).result = .ok (artifact, fingerprint)) :
    ∃ text, Gives specification strict traced text fingerprint := by
  rcases compile_eq_ok_iff.mp compiled with ⟨configuration, -, fromConfiguration⟩
  rcases Configuration.compile_eq_ok_iff.mp fromConfiguration with ⟨-, -, written⟩
  rcases Artifact.exists_canonical_of_fingerprint written with ⟨text, canonical⟩
  exact ⟨text, artifact, compiled, canonical⟩

private theorem fields_eq_of_paths {first second : Rejection}
    (same : paths first.errors = paths second.errors) :
    first.errors.map FieldError.field = second.errors.map FieldError.field := by
  have fields (errors : List FieldError) :
      errors.map FieldError.field = (paths errors).map Path.text := by
    rw [paths, List.map_map]
    rfl
  rw [fields, fields, same]

/-- Specifications that differ in the order of members alone are rejected with errors at the same
fields, or lack a text both, or give artifacts both. The artifacts have one canonical text and one
fingerprint where the values of conditions are read as the same texts. -/
theorem compile_of_alike {left right : List (String × Json)}
    (distinct : Json.hasDistinctKeys (.obj left) = true)
    (alike : Json.Alike (.obj left) (.obj right)) (strict traced : Bool) :
    (∀ fields, RejectedAt left strict traced fields ↔ RejectedAt right strict traced fields) ∧
      ((∃ fault, (compile left strict traced).result = .error (.unwritable fault)) ↔
        ∃ fault, (compile right strict traced).result = .error (.unwritable fault)) ∧
      ((∃ text fingerprint, Gives left strict traced text fingerprint) ↔
        ∃ text fingerprint, Gives right strict traced text fingerprint) ∧
      (Specification.conditionValues left = Specification.conditionValues right →
        ∀ text fingerprint, Gives left strict traced text fingerprint ↔
          Gives right strict traced text fingerprint) := by
  have agree : FieldsAgree left right := ⟨distinct, Json.ordered_eq_of_alike distinct alike⟩
  rcases compile_of_agree agree strict traced with
    ⟨first, second, ofLeft, ofRight, same⟩ | ⟨first, second, ofLeft, ofRight⟩ |
      ⟨first, second, fingerprint, otherFingerprint, ofLeft, ofRight, same⟩
  · simp [RejectedAt, Gives, ofLeft, ofRight, fields_eq_of_paths same]
  · simp [RejectedAt, Gives, ofLeft, ofRight]
  · rcases gives_of_ok ofLeft with ⟨text, leftGives⟩
    rcases gives_of_ok ofRight with ⟨otherText, rightGives⟩
    refine ⟨?_, ?_, iff_of_true ⟨_, _, leftGives⟩ ⟨_, _, rightGives⟩, fun values => ?_⟩
    · simp [RejectedAt, ofLeft, ofRight]
    · simp [ofLeft, ofRight]
    · rcases same values with ⟨canonicals, rfl⟩
      simp [Gives, ofLeft, ofRight, canonicals]

/-- A statement with one condition, on a value. -/
private def tagged (value : Json) : List (String × Json) :=
  [("name", .str "archive"), ("environment", .str "prod"),
    ("encryption", .obj [("kmsKeyId",
      .str "arn:aws:kms:us-east-1:123456789012:key/12345678-1234-1234-1234-123456789012")]),
    ("policy", .obj [("statements", .arr [.obj [("actions", .str "s3:GetObject"),
      ("resources", .str "*"),
      ("conditions", .arr [.obj [("test", .str "StringEquals"),
        ("variable", .str "aws:PrincipalTag/team"), ("values", value)]])]])])]

theorem compile_of_tagged_reversed :
    (∃ text fingerprint, Gives (tagged (.str "blue")) true false text fingerprint) ∧
      ∀ text fingerprint, Gives (tagged (.str "blue")) true false text fingerprint ↔
        Gives (tagged (.str "blue")).reverse true false text fingerprint := by
  have alike := @compile_of_alike (tagged (.str "blue")) (tagged (.str "blue")).reverse
    (by decide +kernel)
    (.of_perm (List.reverse_perm _).symm) true false
  have compiles : (compile (tagged (.str "blue")) true false).result.isOk := by decide +kernel
  refine ⟨?_, alike.2.2.2 (by decide +kernel)⟩
  cases compiled : (compile (tagged (.str "blue")) true false).result with
  | error failure =>
      rw [compiled] at compiles
      contradiction
  | ok result =>
      rcases gives_of_ok compiled with ⟨text, gives⟩
      exact ⟨text, result.2, gives⟩

private def oneTwo : Json := .obj [("a", .int 1), ("b", .int 2)]

private def twoOne : Json := .obj [("b", .int 2), ("a", .int 1)]

private theorem tagged_alike {left right : Json} (alike : Json.Alike left right) :
    Json.Alike (.obj (tagged left)) (.obj (tagged right)) := by
  have refl := Json.Alike.refl
  refine .obj ⟨rfl, refl _, rfl, refl _, rfl, refl _, rfl, .obj ⟨rfl, ⟨.obj ?_, trivial⟩, trivial⟩,
    trivial⟩
  refine ⟨rfl, refl _, rfl, refl _, rfl, ⟨.obj ?_, trivial⟩, trivial⟩
  exact ⟨rfl, refl _, rfl, refl _, rfl, alike, trivial⟩

/-- The characters of the policy in a canonical text. -/
private def policyText? (specification : List (String × Json)) : Option (List Char) :=
  match (compile specification false false).result with
  | .ok (artifact, _) =>
      ((Policy.document artifact.statements >>= Document.ordered).map Json.compactText).toOption
  | .error _ => none

private theorem policyText?_eq_of_gives {left right : List (String × Json)}
    {text fingerprint : String} (ofLeft : Gives left false false text fingerprint)
    (ofRight : Gives right false false text fingerprint) :
    policyText? left = policyText? right := by
  rcases ofLeft with ⟨first, firstCompiled, firstCanonical⟩
  rcases ofRight with ⟨second, secondCompiled, secondCanonical⟩
  rcases (Artifact.alike_of_canonical_eq firstCanonical secondCanonical).policy with
    ⟨policy, firstPolicy, secondPolicy⟩
  have written {artifact : Artifact} (isPolicy : artifact.policyText = .ok policy) :
      (Policy.document artifact.statements >>= Document.ordered).map Json.compactText =
        .ok policy.toList := by
    rw [Artifact.policyText_eq] at isPolicy
    cases rendered : Policy.document artifact.statements >>= Document.ordered with
    | error fault =>
        rw [rendered] at isPolicy
        contradiction
    | ok value =>
        rw [rendered] at isPolicy
        rw [← Except.ok.inj isPolicy, Json.print, String.toList_ofList]
        rfl
  rw [policyText?, policyText?, firstCompiled, secondCompiled]
  simp only [written firstPolicy, written secondPolicy]

private theorem policyText?_differs :
    policyText? (tagged oneTwo) ≠ policyText? (tagged twoOne) := by
  decide +kernel

/-- The values of a condition show the order of their members. -/
theorem condition_shows_order :
    ¬∀ (left right : List (String × Json)), Json.hasDistinctKeys (.obj left) = true →
      Json.Alike (.obj left) (.obj right) → ∀ strict traced text fingerprint,
        Gives left strict traced text fingerprint ↔ Gives right strict traced text fingerprint := by
  intro same
  have alike : Json.Alike oneTwo twoOne := .of_perm (List.Perm.swap ..)
  have same := same (tagged oneTwo) (tagged twoOne) (by decide +kernel) (tagged_alike alike)
    false false
  have compiles : (compile (tagged oneTwo) false false).result.isOk := by decide +kernel
  cases compiled : (compile (tagged oneTwo) false false).result with
  | error failure =>
      rw [compiled] at compiles
      contradiction
  | ok result =>
      rcases gives_of_ok compiled with ⟨text, gives⟩
      have otherGives := (same text result.2).mp gives
      exact policyText?_differs (policyText?_eq_of_gives gives otherGives)

end Session

end BucketGuard
