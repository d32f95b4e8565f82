import BucketGuard.Proofs.ArtifactText
import BucketGuard.Proofs.Compilation
import BucketGuard.Proofs.Grouping

namespace BucketGuard

/-! Which artifacts can be written. All their values can, but the kinds of principals, the tests of
conditions and the context keys under one test become keys of objects, and validation judges none of
them by whether it can be one. -/

/-! ## Values as keys -/

namespace Json

/-- Values that can be keys of one object: scalars of one family. -/
def AreKeys (values : List Json) : Prop :=
  ∃ keys : List Scalar, values = keys.map .leaf ∧ Scalar.OfOneFamily keys

theorem areKeys_leaf_iff {keys : List Scalar} :
    AreKeys (keys.map .leaf) ↔ Scalar.OfOneFamily keys := by
  constructor
  · rintro ⟨others, equal, ofOneFamily⟩
    rw [(List.map_inj_right fun _ _ same => Tree.leaf.inj same).mp equal]
    exact ofOneFamily
  · exact fun ofOneFamily => ⟨keys, rfl, ofOneFamily⟩

theorem areKeys_nil : AreKeys [] := ⟨[], rfl, fun _ member => nomatch member⟩

theorem areKeys_singleton (scalar : Scalar) : AreKeys [.leaf scalar] := by
  refine ⟨[scalar], rfl, fun left leftMember right rightMember => ?_⟩
  rw [List.mem_singleton.mp leftMember, List.mem_singleton.mp rightMember]

theorem AreKeys.exists_leaf {values : List Json} (areKeys : AreKeys values) {value : Json}
    (member : value ∈ values) : ∃ scalar, value = .leaf scalar := by
  rcases areKeys with ⟨keys, rfl, -⟩
  rcases List.mem_map.mp member with ⟨scalar, -, isLeaf⟩
  exact ⟨scalar, isLeaf.symm⟩

/-- Where each item gives a key that is its value, the values can be keys if the keys are of one
family. -/
theorem areKeys_iff_of_mapM {α β : Type} {each : α → Except KeyFault β} {value : α → Json}
    {key : β → Scalar}
    (tells : ∀ item result, each item = .ok result → value item = .leaf (key result))
    {items : List α} {results : List β} (worked : items.mapM each = .ok results) :
    AreKeys (items.map value) ↔ Scalar.OfOneFamily (results.map key) := by
  have equal : items.map value = (results.map key).map .leaf := by
    rw [List.map_map]
    exact Except.map_eq_of_mapM tells worked
  rw [equal, areKeys_leaf_iff]

theorem eq_leaf_of_key {value : Json} {scalar : Scalar} (isKey : value.key = .ok scalar) :
    value = .leaf scalar := by
  cases value with
  | leaf other => rw [Except.ok.inj isKey]
  | arr items => contradiction
  | obj members => contradiction

end Json

/-- A list of values as it is written under a key. -/
def valuesDocument (values : List Json) : Document := .arr (values.map Document.ofJson)

private theorem hasText_values (values : List Json) :
    Document.HasText (.arr (values.map Document.ofJson)) :=
  Document.hasText_arr_iff.mpr (List.forall_mem_map.mpr fun value _ =>
    Document.hasText_ofJson value)

/-! ## Principals -/

namespace PrincipalSet

private theorem kind_of_item {set : PrincipalSet} {result : Members.Item Json}
    (isItem : set.item = .ok result) : set.kind = .leaf result.1 := by
  cases isKey : set.kind.key with
  | error fault => simp [item, isKey, Except.map] at isItem
  | ok kind =>
      rw [item, isKey] at isItem
      cases isItem
      exact Json.eq_leaf_of_key isKey

private theorem exists_items {sets : List PrincipalSet}
    (areKeys : Json.AreKeys (sets.map PrincipalSet.kind)) :
    ∃ items, sets.mapM item = .ok items := by
  apply Except.exists_mapM_iff.mpr
  intro set member
  rcases areKeys.exists_leaf (List.mem_map.mpr ⟨set, member, rfl⟩) with ⟨kind, isLeaf⟩
  rw [item, isLeaf]
  exact ⟨_, rfl⟩

/-- Principals can be written if their kinds can be keys of one object, and only then. -/
theorem document_hasText_iff (sets : List PrincipalSet) :
    (∃ document, PrincipalSet.document sets = .ok document ∧ document.HasText) ↔
      Json.AreKeys (sets.map PrincipalSet.kind) := by
  rw [PrincipalSet.document]
  by_cases everyone : sets = [.wildcard]
  · rw [if_pos everyone, everyone]
    refine iff_of_true ⟨_, rfl, Document.hasText_leaf _⟩ ⟨[.str "*"], rfl, ?_⟩
    simp [Scalar.OfOneFamily]
  rw [if_neg everyone, grouped_eq]
  cases collected : sets.mapM item with
  | error fault =>
      constructor
      · rintro ⟨document, written, -⟩
        contradiction
      · intro areKeys
        rcases exists_items areKeys with ⟨items, isItems⟩
        rw [collected] at isItems
        contradiction
  | ok items =>
      have groups := Document.hasText_groups_iff valuesDocument (Members.collect [] items)
      rw [Json.areKeys_iff_of_mapM (fun _ _ => kind_of_item) collected,
        ← Members.orderFault?_collect_eq_none_iff]
      constructor
      · rintro ⟨document, written, hasText⟩
        cases written
        exact (groups.mp hasText).1
      · intro ordered
        exact ⟨_, rfl, groups.mpr ⟨ordered, fun group _ => hasText_values group.2⟩⟩

end PrincipalSet

/-! ## Conditions -/

namespace Condition

/-- The condition has a test that equals a key. -/
def hasTest (test : Scalar) (condition : Condition) : Bool :=
  match condition.test with
  | .leaf other => other.sameKey test
  | _ => false

private theorem parts_of_entry {condition : Condition} {result : Entry}
    (isEntry : condition.entry = .ok result) :
    condition.test = .leaf result.test ∧ condition.key = .leaf result.key := by
  rcases Except.bind_eq_ok_iff.mp isEntry with ⟨test, isTest, isEntry⟩
  rcases Except.bind_eq_ok_iff.mp isEntry with ⟨key, isKey, isEntry⟩
  cases isEntry
  exact ⟨Json.eq_leaf_of_key isTest, Json.eq_leaf_of_key isKey⟩

private theorem exists_entries {conditions : List Condition}
    (tests : Json.AreKeys (conditions.map Condition.test))
    (keys : ∀ test, Json.AreKeys ((conditions.filter (hasTest test)).map Condition.key)) :
    ∃ entries, conditions.mapM entry = .ok entries := by
  apply Except.exists_mapM_iff.mpr
  intro condition member
  rcases tests.exists_leaf (List.mem_map.mpr ⟨condition, member, rfl⟩) with ⟨test, isTest⟩
  have itself : condition.hasTest test := by
    rw [hasTest, isTest]
    exact test.sameKey_refl
  rcases (keys test).exists_leaf (List.mem_map.mpr
    ⟨condition, List.mem_filter.mpr ⟨member, itself⟩, rfl⟩) with ⟨key, isKey⟩
  rw [entry, isTest, isKey]
  exact ⟨_, rfl⟩

/-- The document of the context keys under one test. -/
def keysDocument (keys : List (Scalar × List Json)) : Document :=
  .obj (keys.map fun (key, values) => (key, valuesDocument values))

private theorem keysDocument_hasText_iff (own : List Entry) :
    (keysDocument (Members.collect [] (own.map Entry.inner))).HasText ↔
      Scalar.OfOneFamily (own.map Entry.key) := by
  have names : (own.map Entry.inner).map Prod.fst = own.map Entry.key := by
    rw [List.map_map]
    rfl
  rw [keysDocument, Document.hasText_groups_iff, Members.orderFault?_collect_eq_none_iff, names]
  exact and_iff_left fun group _ => hasText_values group.2

private theorem names_outer (entries : List Entry) :
    (entries.map Entry.outer).map Prod.fst = entries.map Entry.test := by
  rw [List.map_map]
  rfl

/-- Every group is that of a test, and every test that occurs has its group. -/
private theorem groups_hasText_iff (entries : List Entry) :
    (∀ group ∈ Members.collect [] (entries.map Entry.outer), (keysDocument group.2).HasText) ↔
      ∀ test, Scalar.OfOneFamily ((entries.filter (·.test.sameKey test)).map Entry.key) := by
  constructor
  · intro written test
    by_cases occurs : entries.filter (·.test.sameKey test) = []
    · rw [occurs]
      exact fun _ member => nomatch member
    · rcases Members.exists_mem_of_under (under_grouped entries occurs) with ⟨other, member, -⟩
      exact (keysDocument_hasText_iff _).mp (written _ member)
  · intro ofOneFamily group member
    have distinct : Scalar.Distinct
        ((Members.collect [] (entries.map Entry.outer)).map Prod.fst) :=
      Members.distinct_collect _ List.Pairwise.nil
    have isTest : group.1 ∈ entries.map Entry.test := by
      rw [← names_outer]
      exact (Members.mem_keys_collect (List.mem_map.mpr ⟨group, member, rfl⟩)).resolve_left
        List.not_mem_nil
    rcases List.mem_map.mp isTest with ⟨entry, isEntry, same⟩
    have occurs : entries.filter (·.test.sameKey group.1) ≠ [] :=
      List.ne_nil_of_mem (List.mem_filter.mpr ⟨isEntry, same ▸ Scalar.sameKey_refl _⟩)
    have found := Members.under_eq_of_mem distinct member
    rw [under_grouped entries occurs] at found
    rw [← Option.some.inj found]
    exact (keysDocument_hasText_iff _).mpr (ofOneFamily group.1)

/-- Conditions can be written if their tests can be keys of one object, and so can the context keys
under each test, and only then. -/
theorem document_hasText_iff (conditions : List Condition) :
    (∃ document, Condition.document conditions = .ok document ∧ document.HasText) ↔
      Json.AreKeys (conditions.map Condition.test) ∧
        ∀ test, Json.AreKeys ((conditions.filter (hasTest test)).map Condition.key) := by
  rw [Condition.document, grouped_eq]
  cases collected : conditions.mapM entry with
  | error fault =>
      constructor
      · rintro ⟨document, written, -⟩
        contradiction
      · rintro ⟨tests, keys⟩
        rcases exists_entries tests keys with ⟨entries, areEntries⟩
        rw [collected] at areEntries
        contradiction
  | ok entries =>
      have picked (test : Scalar) : (conditions.filter (hasTest test)).mapM entry =
          .ok (entries.filter (·.test.sameKey test)) := by
        apply Except.mapM_filter _ collected
        intro condition result isEntry
        rw [hasTest, (parts_of_entry isEntry).1]
      have keysOf (test : Scalar) :
          Json.AreKeys ((conditions.filter (hasTest test)).map Condition.key) ↔
            Scalar.OfOneFamily ((entries.filter (·.test.sameKey test)).map Entry.key) :=
        Json.areKeys_iff_of_mapM (fun _ _ isEntry => (parts_of_entry isEntry).2) (picked test)
      simp only [keysOf]
      rw [Json.areKeys_iff_of_mapM (fun _ _ isEntry => (parts_of_entry isEntry).1) collected,
        ← names_outer, ← Members.orderFault?_collect_eq_none_iff, ← groups_hasText_iff]
      have groups := Document.hasText_groups_iff keysDocument
        (Members.collect [] (entries.map Entry.outer))
      constructor
      · rintro ⟨document, written, hasText⟩
        cases written
        exact groups.mp hasText
      · intro ordered
        exact ⟨_, rfl, groups.mpr ordered⟩

end Condition

/-! ## Statements -/

namespace Statement

/-- The parts of a statement that become keys can be keys. -/
structure Writable (statement : Statement) : Prop where
  kinds : Json.AreKeys (statement.principals.map PrincipalSet.kind)
  tests : Json.AreKeys (statement.conditions.map Condition.test)
  contextKeys : ∀ test,
    Json.AreKeys ((statement.conditions.filter (Condition.hasTest test)).map Condition.key)

theorem writable_iff {statement : Statement} :
    statement.Writable ↔
      Json.AreKeys (statement.principals.map PrincipalSet.kind) ∧
        Json.AreKeys (statement.conditions.map Condition.test) ∧
        ∀ test, Json.AreKeys
          ((statement.conditions.filter (Condition.hasTest test)).map Condition.key) := by
  constructor
  · rintro ⟨kinds, tests, contextKeys⟩
    exact ⟨kinds, tests, contextKeys⟩
  · rintro ⟨kinds, tests, contextKeys⟩
    exact ⟨kinds, tests, contextKeys⟩

private theorem part_hasText_iff {α : Type} (name : String)
    {render : List α → Except KeyFault Document} (items : List α)
    (ofNone : ∃ document, render [] = .ok document ∧ document.HasText) :
    (∃ fields, part name render items = .ok fields ∧ ∀ field ∈ fields, field.2.HasText) ↔
      ∃ document, render items = .ok document ∧ document.HasText := by
  cases items with
  | nil => exact iff_of_true ⟨[], rfl, fun _ member => nomatch member⟩ ofNone
  | cons item rest =>
      have rendered : part name render (item :: rest) =
          (render (item :: rest)).map fun document => [(name, document)] := by
        simp only [part]
        cases render (item :: rest) <;> rfl
      rw [rendered]
      cases render (item :: rest) with
      | error fault => simp [Except.map]
      | ok document => simp [Except.map]

private theorem principals_hasText_iff (sets : List PrincipalSet) :
    (∃ fields, part "Principal" PrincipalSet.document sets = .ok fields ∧
        ∀ field ∈ fields, field.2.HasText) ↔
      Json.AreKeys (sets.map PrincipalSet.kind) := by
  rw [part_hasText_iff "Principal" sets, PrincipalSet.document_hasText_iff]
  exact (PrincipalSet.document_hasText_iff []).mpr Json.areKeys_nil

private theorem conditions_hasText_iff (conditions : List Condition) :
    (∃ fields, part "Condition" Condition.document conditions = .ok fields ∧
        ∀ field ∈ fields, field.2.HasText) ↔
      Json.AreKeys (conditions.map Condition.test) ∧
        ∀ test, Json.AreKeys ((conditions.filter (Condition.hasTest test)).map Condition.key) := by
  rw [part_hasText_iff "Condition" conditions, Condition.document_hasText_iff]
  exact (Condition.document_hasText_iff []).mpr ⟨Json.areKeys_nil, fun _ => Json.areKeys_nil⟩

/-- A statement can be written if its keys can be keys, and only then. -/
theorem document_hasText_iff (statement : Statement) :
    (∃ document, statement.document = .ok document ∧ document.HasText) ↔ statement.Writable := by
  have principals := principals_hasText_iff statement.principals
  have conditions := conditions_hasText_iff statement.conditions
  rw [writable_iff, ← principals, ← conditions, document]
  cases part "Principal" PrincipalSet.document statement.principals with
  | error fault => simp [bind, Except.bind]
  | ok principals =>
      cases part "Condition" Condition.document statement.conditions with
      | error fault => simp [bind, Except.bind]
      | ok conditions =>
          have sid : ∀ field ∈ (if statement.sid = .null then []
              else [("Sid", Document.ofJson statement.sid)]), field.2.HasText := by
            split
            · exact fun _ member => nomatch member
            · exact List.forall_mem_singleton.mpr (Document.hasText_ofJson _)
          simp only [bind, Except.bind, pure, Except.pure, Except.ok.injEq, exists_eq_left',
            Document.hasText_ofFields_iff, List.forall_mem_append, List.forall_mem_cons,
            List.not_mem_nil, false_implies, implies_true, and_true, Document.hasText_ofJson,
            hasText_values]
          exact and_congr_left' (and_iff_right sid)

end Statement

/-! ## Artifacts -/

namespace Policy

private theorem documents_hasText_iff (statements : List Statement) :
    (∃ documents, Policy.documents statements = .ok documents ∧
        ∀ document ∈ documents, document.HasText) ↔
      ∀ statement ∈ statements, statement.Writable := by
  induction statements with
  | nil => simp [Policy.documents]
  | cons statement rest induction =>
      rw [List.forall_mem_cons, ← induction, ← Statement.document_hasText_iff]
      constructor
      · rintro ⟨documents, rendered, written⟩
        rcases documents_cons_eq_ok_iff.mp rendered with ⟨first, others, isFirst, areOthers, rfl⟩
        rw [List.forall_mem_cons] at written
        exact ⟨⟨first, isFirst, written.1⟩, others, areOthers, written.2⟩
      · rintro ⟨⟨first, isFirst, firstWritten⟩, others, areOthers, othersWritten⟩
        have rendered := documents_cons_eq_ok_iff.mpr ⟨first, others, isFirst, areOthers, rfl⟩
        exact ⟨_, rendered, List.forall_mem_cons.mpr ⟨firstWritten, othersWritten⟩⟩

/-- A policy can be written if its statements can, and only then. -/
theorem document_hasText_iff (statements : List Statement) :
    (∃ document, Policy.document statements = .ok document ∧ document.HasText) ↔
      ∀ statement ∈ statements, statement.Writable := by
  rw [← documents_hasText_iff, Policy.document]
  cases Policy.documents statements with
  | error fault => simp [bind, Except.bind]
  | ok documents =>
      simp [bind, Except.bind, pure, Except.pure, Document.hasText_ofFields_iff,
        Document.hasText_arr_iff, Document.hasText_leaf]

private theorem denial_writable (sid action : String) (resources : List String)
    (test key : String) (values : List Json) :
    (denial sid action resources { test := .str test, key := .str key, values }).Writable where
  kinds := Json.areKeys_singleton _
  tests := Json.areKeys_singleton _
  contextKeys scalar := by
    rw [denial, List.filter_cons]
    split
    · exact Json.areKeys_singleton _
    · exact Json.areKeys_nil

private theorem allowTrusted_writable (arn : BucketArn) (principals : List Json)
    (actions : Option (List Json)) : (allowTrusted arn principals actions).Writable where
  kinds := Json.areKeys_singleton _
  tests := Json.areKeys_nil
  contextKeys _ := Json.areKeys_nil

private theorem named_writable_iff (index : Nat) (statement : Statement) :
    (named index statement).Writable ↔ statement.Writable := by
  unfold named
  split
  · rw [Statement.writable_iff, Statement.writable_iff]
  · exact Iff.rfl

/-- The statements of the baseline can always be written. -/
theorem statements_writable_iff (arn : BucketArn) (configuration : Configuration) :
    (∀ statement ∈ (statements arn configuration).map Prod.snd, statement.Writable) ↔
      ∀ statement ∈ configuration.statements, statement.Writable :=
  forall_statements_iff named_writable_iff (denial_writable ..) (allowTrusted_writable ..)
    (denial_writable ..) (denial_writable ..)

end Policy

namespace Artifact

/-- An artifact has canonical text if its statements can be written, and only then. -/
theorem exists_canonical_iff (artifact : Artifact) :
    (∃ text, artifact.canonical = .ok text) ↔
      ∀ statement ∈ artifact.statements, statement.Writable := by
  rw [← Policy.document_hasText_iff, canonical_eq]
  cases Policy.document artifact.statements with
  | error fault => simp [bind, Except.bind, Except.map]
  | ok document =>
      simp only [bind, Except.bind, Except.ok.injEq, exists_eq_left', Document.HasText]
      cases document.ordered <;> simp [Except.map]

theorem fingerprint_of_canonical {artifact : Artifact} {text : String}
    (written : artifact.canonical = .ok text) :
    artifact.fingerprint = .ok (Digest.sha256 text) := by
  rw [fingerprint, written]
  rfl

theorem exists_canonical_of_fingerprint {artifact : Artifact} {fingerprint : String}
    (written : artifact.fingerprint = .ok fingerprint) : ∃ text, artifact.canonical = .ok text := by
  rcases Except.bind_eq_ok_iff.mp written with ⟨text, canonical, -⟩
  exact ⟨text, canonical⟩

/-- With canonical text there is also a text that carries the fingerprint, in every layout. -/
theorem exists_sealed {artifact : Artifact} {text : String}
    (written : artifact.canonical = .ok text) (layout : Json.Layout) :
    ∃ output, artifact.sealed layout = .ok output := by
  rcases Except.bind_eq_ok_iff.mp written with ⟨document, isDocument, hasText⟩
  rcases Except.bind_eq_ok_iff.mp isDocument with ⟨fields, areFields, isDocument⟩
  cases isDocument
  have fieldsHaveText : ∀ field ∈ fields, field.2.HasText := by
    rw [← Document.hasText_ofFields_iff, Document.HasText]
    cases ordered : (Document.ofFields fields).ordered with
    | error fault => simp [Document.canonical, ordered, Except.map] at hasText
    | ok value => exact ⟨value, rfl⟩
  have sealedHasText : (Document.ofFields
      (fields ++ [("fingerprint", .str (Digest.sha256 text))])).HasText := by
    rw [Document.hasText_ofFields_iff, List.forall_mem_append]
    exact ⟨fieldsHaveText, List.forall_mem_singleton.mpr (Document.hasText_leaf _)⟩
  rcases sealedHasText with ⟨value, ordered⟩
  refine ⟨value.print layout, ?_⟩
  simp [Artifact.sealed, areFields, fingerprint_of_canonical written, Document.canonical, ordered,
    bind, Except.bind, Except.map]

end Artifact

end BucketGuard
