import BucketGuard.Proofs.Json.Rereading
import BucketGuard.Proofs.WellFormed
import BucketGuard.Proofs.Writability

namespace BucketGuard

/-! Policies as they are written. The keys of principals and conditions are the kinds, tests and
context keys of the statements, as scalars. They differ and are well formed, so the written policy
can be read again; its members stand in the order of their texts only where these keys do. -/

namespace Document

variable {leafHolds : Scalar → Prop} {keysHold : List Scalar → Prop}

theorem every_groups_iff {α : Type} (change : α → Document) (groups : List (Scalar × α)) :
    Tree.Every leafHolds keysHold (.obj (groups.map fun (key, value) => (key, change value))) ↔
      keysHold (groups.map Prod.fst) ∧
        ∀ group ∈ groups, (change group.2).Every leafHolds keysHold := by
  rw [Tree.every_obj_iff, List.map_map, List.forall_mem_map]
  rfl

theorem valuesDocument_wellFormed {values : List Json} (wellFormed : Json.AllWellFormed values) :
    (valuesDocument values).WellFormed :=
  .arr (List.forall_mem_map.mpr fun value member => wellFormed_ofJson (wellFormed value member))

theorem valuesDocument_ascending (values : List Json) : (valuesDocument values).Ascending :=
  .arr (List.forall_mem_map.mpr fun value _ => ascending_ofJson value)

theorem wellFormed_of_within {names : List String} {fields : List (String × Document)}
    (within : Members.Within names WellFormed fields) (distinct : names.Nodup) :
    (ofFields fields).WellFormed := wellFormed_ofFields (within.nodup distinct) within.values

end Document

/-- The keys are written in the order of their texts. -/
def Scalar.TextsAscend (keys : List Scalar) : Prop :=
  (Document.keyTexts keys).Pairwise (· ≤ ·)

/-! ## Groups -/

namespace Members

variable {α : Type} {valuesHold : List α → Prop} {groups : List (Scalar × List α)}

/-- Groups under keys that differ and are in form, with values of one property under each. -/
structure WellGrouped (valuesHold : List α → Prop) (groups : List (Scalar × List α)) : Prop where
  keys : Document.KeysHold (groups.map Prod.fst)
  values : ∀ group ∈ groups, valuesHold group.2

namespace WellGrouped

theorem nil : WellGrouped valuesHold [] :=
  ⟨⟨List.Pairwise.nil, fun _ member => nomatch member⟩, fun _ member => nomatch member⟩

theorem extend (well : WellGrouped valuesHold groups) {key : Scalar} (inForm : key.InForm)
    {join : List α → List α} (ofNone : valuesHold (join []))
    (ofJoin : ∀ values, valuesHold values → valuesHold (join values)) :
    WellGrouped valuesHold (extend groups key join) where
  keys.distinct := distinct_extend key join well.keys.distinct
  keys.inForm other member := by
    rcases mem_keys_extend member with earlier | rfl
    · exact well.keys.inForm other earlier
    · exact inForm
  values := values_extend well.values key ofNone ofJoin

end WellGrouped

end Members

/-! ## Principals -/

namespace PrincipalSet

variable {sets : List PrincipalSet}

/-- What holds of groups with nothing in them, and is kept by every set, holds of the groups of the
sets. -/
theorem grouped_invariant {holds : List (Scalar × List Json) → Prop}
    {groups result : List (Scalar × List Json)} (worked : grouped groups sets = .ok result)
    (start : holds groups)
    (step : ∀ groups, ∀ set ∈ sets, ∀ kind, set.kind = .leaf kind → holds groups →
      holds (Members.extend groups kind (· ++ set.identifiers))) : holds result := by
  induction sets generalizing groups with
  | nil =>
      cases worked
      exact start
  | cons set rest induction =>
      rcases Except.bind_eq_ok_iff.mp worked with ⟨kind, isKind, worked⟩
      have extended := step groups set (.head _) kind (Json.eq_leaf_of_key isKind) start
      exact induction worked extended fun groups set member => step groups set (.tail _ member)

theorem grouped_wellFormed (wellFormed : ∀ set ∈ sets, set.WellFormed)
    {groups : List (Scalar × List Json)} (worked : grouped [] sets = .ok groups) :
    Members.WellGrouped Json.AllWellFormed groups := by
  refine grouped_invariant worked .nil fun groups set member kind isKind well => ?_
  have ofSet := wellFormed set member
  have inForm : kind.InForm := Tree.every_leaf_iff.mp (isKind ▸ ofSet.kind)
  exact well.extend inForm ofSet.identifiers fun values ofValues =>
    List.forall_mem_append.mpr ⟨ofValues, ofSet.identifiers⟩

theorem document_cases {document : Document} (rendered : PrincipalSet.document sets = .ok document) :
    (sets = [.wildcard] ∧ document = .str "*") ∨
      ∃ groups, grouped [] sets = .ok groups ∧ document = .obj (groups.map
        fun (kind, identifiers) => (kind, valuesDocument identifiers)) := by
  rw [PrincipalSet.document] at rendered
  split at rendered
  · rename_i everyone
    exact .inl ⟨everyone, (Except.ok.inj rendered).symm⟩
  · rcases Except.bind_eq_ok_iff.mp rendered with ⟨groups, areGroups, equal⟩
    exact .inr ⟨groups, areGroups, (Except.ok.inj equal).symm⟩

theorem document_wellFormed (wellFormed : ∀ set ∈ sets, set.WellFormed) {document : Document}
    (rendered : PrincipalSet.document sets = .ok document) : document.WellFormed := by
  rcases document_cases rendered with ⟨-, rfl⟩ | ⟨groups, areGroups, rfl⟩
  · exact .leaf trivial
  · have well := grouped_wellFormed wellFormed areGroups
    exact (Document.every_groups_iff _ groups).mpr ⟨well.keys, fun group member =>
      Document.valuesDocument_wellFormed (well.values group member)⟩

theorem document_ascending_iff {document : Document}
    (rendered : PrincipalSet.document sets = .ok document) :
    document.Ascending ↔
      ∀ groups, grouped [] sets = .ok groups → Scalar.TextsAscend (groups.map Prod.fst) := by
  rcases document_cases rendered with ⟨rfl, rfl⟩ | ⟨groups, areGroups, rfl⟩
  · refine iff_of_true (.leaf trivial) fun groups areGroups => ?_
    cases areGroups
    exact Document.keyTexts_str_ascend ["*"]
  · rw [areGroups]
    refine (Document.every_groups_iff _ groups).trans ?_
    simp only [Except.ok.injEq, forall_eq']
    exact and_iff_left fun group _ => Document.valuesDocument_ascending group.2

end PrincipalSet

/-! ## Conditions -/

namespace Condition

variable {conditions : List Condition}

abbrev Groups := List (Scalar × List (Scalar × List Json))

/-- Groups with a condition in them, under its test and its context key. -/
def added (condition : Condition) (groups : Groups) (test key : Scalar) : Groups :=
  Members.extend groups test fun keys =>
    Members.extend keys key fun values => addValues values condition.values

theorem grouped_invariant {holds : Groups → Prop} {groups result : Groups}
    (worked : grouped groups conditions = .ok result) (start : holds groups)
    (step : ∀ groups, ∀ condition ∈ conditions, ∀ test key, condition.test = .leaf test →
      condition.key = .leaf key → holds groups → holds (condition.added groups test key)) :
    holds result := by
  induction conditions generalizing groups with
  | nil =>
      cases worked
      exact start
  | cons condition rest induction =>
      rcases Except.bind_eq_ok_iff.mp worked with ⟨test, isTest, worked⟩
      rcases Except.bind_eq_ok_iff.mp worked with ⟨key, isKey, worked⟩
      have extended := step groups condition (.head _) test key (Json.eq_leaf_of_key isTest)
        (Json.eq_leaf_of_key isKey) start
      exact induction worked extended fun groups condition member =>
        step groups condition (.tail _ member)

private theorem addValues_wellFormed {present values : List Json}
    (ofPresent : Json.AllWellFormed present) (ofValues : Json.AllWellFormed values) :
    Json.AllWellFormed (addValues present values) := by
  induction values generalizing present with
  | nil => exact ofPresent
  | cons value rest induction =>
      rcases List.forall_mem_cons.mp ofValues with ⟨first, others⟩
      refine induction ?_ others
      split
      · exact ofPresent
      · exact List.forall_mem_append.mpr ⟨ofPresent, List.forall_mem_singleton.mpr first⟩

theorem grouped_wellFormed (wellFormed : ∀ condition ∈ conditions, condition.WellFormed)
    {groups : Groups} (worked : grouped [] conditions = .ok groups) :
    Members.WellGrouped (Members.WellGrouped Json.AllWellFormed) groups := by
  refine grouped_invariant worked .nil fun groups condition member test key isTest isKey well => ?_
  have ofCondition := wellFormed condition member
  have testInForm : test.InForm := Tree.every_leaf_iff.mp (isTest ▸ ofCondition.test)
  have keyInForm : key.InForm := Tree.every_leaf_iff.mp (isKey ▸ ofCondition.key)
  have joined (keys : List (Scalar × List Json))
      (ofKeys : Members.WellGrouped Json.AllWellFormed keys) :
      Members.WellGrouped Json.AllWellFormed (Members.extend keys key fun values =>
        addValues values condition.values) :=
    ofKeys.extend keyInForm (addValues_wellFormed (fun _ member => nomatch member) ofCondition.values)
      fun _ ofValues => addValues_wellFormed ofValues ofCondition.values
  exact well.extend testInForm (joined [] .nil) joined

private theorem document_eq_ok_iff {document : Document} :
    Condition.document conditions = .ok document ↔
      ∃ groups, grouped [] conditions = .ok groups ∧ document = .obj (groups.map
        fun (test, keys) => (test, keysDocument keys)) := by
  rw [Condition.document, Except.bind_eq_ok_iff]
  exact exists_congr fun groups => and_congr_right fun _ =>
    ⟨fun equal => (Except.ok.inj equal).symm, fun equal => congrArg Except.ok equal.symm⟩

theorem document_wellFormed (wellFormed : ∀ condition ∈ conditions, condition.WellFormed)
    {document : Document} (rendered : Condition.document conditions = .ok document) :
    document.WellFormed := by
  rcases document_eq_ok_iff.mp rendered with ⟨groups, areGroups, rfl⟩
  have well := grouped_wellFormed wellFormed areGroups
  refine (Document.every_groups_iff _ groups).mpr ⟨well.keys, fun group member => ?_⟩
  have keys := well.values group member
  exact (Document.every_groups_iff _ group.2).mpr ⟨keys.keys, fun key isKey =>
    Document.valuesDocument_wellFormed (keys.values key isKey)⟩

theorem document_ascending_iff {document : Document}
    (rendered : Condition.document conditions = .ok document) :
    document.Ascending ↔
      ∀ groups, grouped [] conditions = .ok groups → Scalar.TextsAscend (groups.map Prod.fst) ∧
        ∀ group ∈ groups, Scalar.TextsAscend (group.2.map Prod.fst) := by
  rcases document_eq_ok_iff.mp rendered with ⟨groups, areGroups, rfl⟩
  rw [areGroups]
  refine (Document.every_groups_iff _ groups).trans ?_
  simp only [Except.ok.injEq, forall_eq']
  refine and_congr_right fun _ => forall₂_congr fun group _ => ?_
  refine (Document.every_groups_iff _ group.2).trans ?_
  exact and_iff_left fun key _ => Document.valuesDocument_ascending key.2

end Condition

/-! ## Statements -/

namespace Statement

variable {statement : Statement} {document : Document}

/-- Kinds of principals, tests and context keys are written in the order of their texts. -/
structure KeysAscend (statement : Statement) : Prop where
  principals : ∀ groups, PrincipalSet.grouped [] statement.principals = .ok groups →
    Scalar.TextsAscend (groups.map Prod.fst)
  conditions : ∀ groups, Condition.grouped [] statement.conditions = .ok groups →
    Scalar.TextsAscend (groups.map Prod.fst) ∧
      ∀ group ∈ groups, Scalar.TextsAscend (group.2.map Prod.fst)

private theorem part_cases {α : Type} {name : String} {render : List α → Except KeyFault Document}
    {items : List α} {fields : List (String × Document)}
    (rendered : part name render items = .ok fields) :
    (items = [] ∧ fields = []) ∨
      ∃ document, render items = .ok document ∧ fields = [(name, document)] := by
  cases items with
  | nil =>
      cases rendered
      exact .inl ⟨rfl, rfl⟩
  | cons item rest =>
      rcases Except.bind_eq_ok_iff.mp rendered with ⟨document, isDocument, equal⟩
      exact .inr ⟨document, isDocument, (Except.ok.inj equal).symm⟩

private theorem part_within {α : Type} (name : String) {render : List α → Except KeyFault Document}
    {items : List α} {fields : List (String × Document)}
    (rendered : part name render items = .ok fields)
    (wellFormed : ∀ document, render items = .ok document → document.WellFormed) :
    Members.Within [name] Document.WellFormed fields := by
  rcases part_cases rendered with ⟨-, rfl⟩ | ⟨document, isDocument, rfl⟩
  · exact Members.Within.nil.skip name
  · exact Members.Within.nil.cons (wellFormed document isDocument)

private theorem part_ascending_iff {α : Type} {name : String}
    {render : List α → Except KeyFault Document} {items : List α} {ascend : Prop}
    {fields : List (String × Document)} (rendered : part name render items = .ok fields)
    (none : items = [] → ascend)
    (some : ∀ document, render items = .ok document → (document.Ascending ↔ ascend)) :
    (∀ field ∈ fields, field.2.Ascending) ↔ ascend := by
  rcases part_cases rendered with ⟨isNone, rfl⟩ | ⟨document, isDocument, rfl⟩
  · exact iff_of_true (List.forall_mem_nil _) (none isNone)
  · rw [List.forall_mem_singleton]
    exact some document isDocument

private theorem exists_parts (rendered : statement.document = .ok document) :
    ∃ principals conditions,
      part "Principal" PrincipalSet.document statement.principals = .ok principals ∧
      part "Condition" Condition.document statement.conditions = .ok conditions ∧
      document = .ofFields
        ((if statement.sid = .null then [] else [("Sid", Document.ofJson statement.sid)]) ++
          [("Effect", Document.ofJson statement.effect)] ++ principals ++
          [("Action", valuesDocument statement.actions),
            ("Resource", valuesDocument statement.resources)] ++
          conditions) := by
  rcases Except.bind_eq_ok_iff.mp rendered with ⟨principals, arePrincipals, rendered⟩
  rcases Except.bind_eq_ok_iff.mp rendered with ⟨conditions, areConditions, equal⟩
  exact ⟨principals, conditions, arePrincipals, areConditions, (Except.ok.inj equal).symm⟩

theorem document_wellFormed (wellFormed : statement.WellFormed)
    (rendered : statement.document = .ok document) : document.WellFormed := by
  rcases exists_parts rendered with ⟨principals, conditions, arePrincipals, areConditions, rfl⟩
  have sid : Members.Within ["Sid"] Document.WellFormed
      (if statement.sid = .null then [] else [("Sid", Document.ofJson statement.sid)]) := by
    split
    · exact Members.Within.nil.skip _
    · exact Members.Within.nil.cons (Document.wellFormed_ofJson wellFormed.sid)
  have effect : Members.Within ["Effect"] Document.WellFormed
      [("Effect", Document.ofJson statement.effect)] :=
    Members.Within.nil.cons (Document.wellFormed_ofJson wellFormed.effect)
  have lists : Members.Within ["Action", "Resource"] Document.WellFormed
      [("Action", valuesDocument statement.actions),
        ("Resource", valuesDocument statement.resources)] :=
    (Members.Within.nil.cons (Document.valuesDocument_wellFormed wellFormed.resources)).cons
      (Document.valuesDocument_wellFormed wellFormed.actions)
  have ofPrincipals := part_within "Principal" arePrincipals fun document =>
    PrincipalSet.document_wellFormed wellFormed.principals
  have ofConditions := part_within "Condition" areConditions fun document =>
    Condition.document_wellFormed wellFormed.conditions
  exact Document.wellFormed_of_within
    ((((sid.append effect).append ofPrincipals).append lists).append ofConditions) (by decide)

theorem document_ascending_iff (rendered : statement.document = .ok document) :
    document.Ascending ↔ statement.KeysAscend := by
  rcases exists_parts rendered with ⟨principals, conditions, arePrincipals, areConditions, rfl⟩
  have sid : ∀ field ∈ (if statement.sid = .null then []
      else [("Sid", Document.ofJson statement.sid)] : List (String × Document)),
        field.2.Ascending := by
    split
    · exact fun _ member => nomatch member
    · exact List.forall_mem_singleton.mpr (Document.ascending_ofJson _)
  have effect : ∀ field ∈ [("Effect", Document.ofJson statement.effect)], field.2.Ascending :=
    List.forall_mem_singleton.mpr (Document.ascending_ofJson _)
  have lists : ∀ field ∈ [("Action", valuesDocument statement.actions),
      ("Resource", valuesDocument statement.resources)], field.2.Ascending :=
    List.forall_mem_cons.mpr ⟨Document.valuesDocument_ascending _,
      List.forall_mem_singleton.mpr (Document.valuesDocument_ascending _)⟩
  have ofPrincipals : (∀ field ∈ principals, field.2.Ascending) ↔
      ∀ groups, PrincipalSet.grouped [] statement.principals = .ok groups →
        Scalar.TextsAscend (groups.map Prod.fst) := by
    refine part_ascending_iff arePrincipals (fun none groups areGroups => ?_)
      fun document => PrincipalSet.document_ascending_iff
    rw [none] at areGroups
    cases areGroups
    exact Document.keyTexts_str_ascend []
  have ofConditions : (∀ field ∈ conditions, field.2.Ascending) ↔
      ∀ groups, Condition.grouped [] statement.conditions = .ok groups →
        Scalar.TextsAscend (groups.map Prod.fst) ∧
          ∀ group ∈ groups, Scalar.TextsAscend (group.2.map Prod.fst) := by
    refine part_ascending_iff areConditions (fun none groups areGroups => ?_)
      fun document => Condition.document_ascending_iff
    rw [none] at areGroups
    cases areGroups
    exact ⟨Document.keyTexts_str_ascend [], List.forall_mem_nil _⟩
  rw [Document.ascending_ofFields_iff, List.forall_mem_append, List.forall_mem_append,
    List.forall_mem_append, List.forall_mem_append, ofPrincipals, ofConditions]
  exact ⟨fun ⟨⟨⟨_, principals⟩, _⟩, conditions⟩ => ⟨principals, conditions⟩,
    fun ascend => ⟨⟨⟨⟨sid, effect⟩, ascend.principals⟩, lists⟩, ascend.conditions⟩⟩

/-- Every kind, test and context key is text. -/
structure NamedByText (statement : Statement) : Prop where
  kinds : ∀ set ∈ statement.principals, ∃ text, set.kind = .str text
  tests : ∀ condition ∈ statement.conditions, ∃ text, condition.test = .str text
  keys : ∀ condition ∈ statement.conditions, ∃ text, condition.key = .str text

private abbrev AreTexts (keys : List Scalar) : Prop := ∀ key ∈ keys, ∃ text, key = .str text

private theorem areTexts_nil {α : Type} : AreTexts (([] : List (Scalar × α)).map Prod.fst) :=
  List.forall_mem_nil _

private theorem textsAscend_of_areTexts {keys : List Scalar} (areTexts : AreTexts keys) :
    Scalar.TextsAscend keys := by
  have equal : keys = (keys.map Scalar.keyText).map .str := by
    rw [List.map_map]
    refine (List.map_id keys).symm.trans (List.map_congr_left fun key member => ?_)
    rcases areTexts key member with ⟨text, rfl⟩
    rfl
  rw [equal]
  exact Document.keyTexts_str_ascend _

private theorem areTexts_extend {α : Type} {groups : List (Scalar × List α)}
    (areTexts : AreTexts (groups.map Prod.fst)) (text : String) (join : List α → List α) :
    AreTexts ((Members.extend groups (.str text) join).map Prod.fst) := by
  intro key member
  rcases Members.mem_keys_extend member with earlier | rfl
  · exact areTexts key earlier
  · exact ⟨text, rfl⟩

private theorem areTexts_kinds (named : statement.NamedByText)
    {groups : List (Scalar × List Json)}
    (worked : PrincipalSet.grouped [] statement.principals = .ok groups) :
    AreTexts (groups.map Prod.fst) := by
  refine @PrincipalSet.grouped_invariant _ (fun groups => AreTexts (groups.map Prod.fst)) _ _ worked
    areTexts_nil fun groups set member kind isKind areTexts => ?_
  rcases named.kinds set member with ⟨text, isText⟩
  cases isText.symm.trans isKind
  exact areTexts_extend areTexts text _

private theorem areTexts_tests (named : statement.NamedByText) {groups : Condition.Groups}
    (worked : Condition.grouped [] statement.conditions = .ok groups) :
    AreTexts (groups.map Prod.fst) ∧ ∀ group ∈ groups, AreTexts (group.2.map Prod.fst) := by
  refine @Condition.grouped_invariant _
    (fun groups => AreTexts (groups.map Prod.fst) ∧ ∀ group ∈ groups, AreTexts (group.2.map Prod.fst))
    _ _ worked ⟨areTexts_nil, List.forall_mem_nil _⟩
    fun groups condition member test key isTest isKey areTexts => ?_
  rcases named.tests condition member with ⟨testText, isText⟩
  rcases named.keys condition member with ⟨keyText, isKeyText⟩
  cases isText.symm.trans isTest
  cases isKeyText.symm.trans isKey
  have joined (keys : List (Scalar × List Json)) (ofKeys : AreTexts (keys.map Prod.fst)) :=
    areTexts_extend ofKeys keyText (Condition.addValues · condition.values)
  exact ⟨areTexts_extend areTexts.1 testText _,
    @Members.values_extend _ (fun keys => AreTexts (keys.map Prod.fst)) groups areTexts.2
      (.str testText) _ (joined [] areTexts_nil) joined⟩

/-- Texts are written in their order. -/
theorem keysAscend_of_namedByText (named : statement.NamedByText) : statement.KeysAscend where
  principals _ worked := textsAscend_of_areTexts (areTexts_kinds named worked)
  conditions _ worked := by
    rcases areTexts_tests named worked with ⟨tests, keys⟩
    exact ⟨textsAscend_of_areTexts tests, fun group member =>
      textsAscend_of_areTexts (keys group member)⟩

end Statement

/-! ## Whole policies -/

namespace Policy

variable {statements : List Statement}

private theorem forall₂_documents {rendered : List Document}
    (written : documents statements = .ok rendered) :
    List.Forall₂ (fun statement document => statement.document = .ok document) statements
      rendered := by
  induction statements generalizing rendered with
  | nil =>
      cases written
      exact .nil
  | cons statement rest induction =>
      rcases documents_cons_eq_ok_iff.mp written with ⟨first, others, isFirst, areOthers, rfl⟩
      exact .cons isFirst (induction areOthers)

private theorem document_eq_ok {document : Document}
    (rendered : Policy.document statements = .ok document) :
    ∃ items, documents statements = .ok items ∧
      document = .ofFields [("Version", .str "2012-10-17"), ("Statement", .arr items)] := by
  rcases Except.bind_eq_ok_iff.mp rendered with ⟨items, areItems, equal⟩
  exact ⟨items, areItems, (Except.ok.inj equal).symm⟩

theorem document_wellFormed (wellFormed : ∀ statement ∈ statements, statement.WellFormed)
    {document : Document} (rendered : Policy.document statements = .ok document) :
    document.WellFormed := by
  rcases document_eq_ok rendered with ⟨items, areItems, rfl⟩
  have ofItems : ∀ item ∈ items, Document.WellFormed item := by
    have inStep := forall₂_documents areItems
    clear rendered areItems
    induction inStep with
    | nil => exact fun _ member => nomatch member
    | cons first _ induction =>
        rcases List.forall_mem_cons.mp wellFormed with ⟨ofFirst, ofOthers⟩
        exact List.forall_mem_cons.mpr
          ⟨Statement.document_wellFormed ofFirst first, induction ofOthers⟩
  exact Document.wellFormed_of_within
    ((Members.Within.nil.cons (.arr ofItems)).cons (.leaf trivial)) (by decide)

theorem document_ascending_iff {document : Document}
    (rendered : Policy.document statements = .ok document) :
    document.Ascending ↔ ∀ statement ∈ statements, statement.KeysAscend := by
  rcases document_eq_ok rendered with ⟨items, areItems, rfl⟩
  have ofItems : (∀ item ∈ items, Document.Ascending item) ↔
      ∀ statement ∈ statements, statement.KeysAscend := by
    have inStep := forall₂_documents areItems
    clear rendered areItems
    induction inStep with
    | nil => simp
    | cons first _ induction =>
        rw [List.forall_mem_cons, List.forall_mem_cons]
        exact and_congr (Statement.document_ascending_iff first) induction
  rw [Document.ascending_ofFields_iff, List.forall_mem_cons, List.forall_mem_singleton, ← ofItems]
  exact (and_iff_right (.leaf trivial)).trans Tree.every_arr_iff

private theorem denial_keysAscend (sid action : String) (resources : List String)
    (test key : String) (values : List Json) : (denial sid action resources
      { test := .str test, key := .str key, values }).KeysAscend :=
  Statement.keysAscend_of_namedByText
    { kinds := List.forall_mem_singleton.mpr ⟨_, rfl⟩
      tests := List.forall_mem_singleton.mpr ⟨_, rfl⟩
      keys := List.forall_mem_singleton.mpr ⟨_, rfl⟩ }

private theorem allowTrusted_keysAscend (arn : BucketArn) (principals : List Json)
    (actions : Option (List Json)) : (allowTrusted arn principals actions).KeysAscend :=
  Statement.keysAscend_of_namedByText
    { kinds := List.forall_mem_singleton.mpr ⟨_, rfl⟩
      tests := List.forall_mem_nil _
      keys := List.forall_mem_nil _ }

private theorem named_keysAscend_iff (index : Nat) (statement : Statement) :
    (named index statement).KeysAscend ↔ statement.KeysAscend := by
  rw [named]
  split
  · exact ⟨fun ascend => ⟨ascend.principals, ascend.conditions⟩,
      fun ascend => ⟨ascend.principals, ascend.conditions⟩⟩
  · exact Iff.rfl

/-- The keys of the baseline are all texts, so only those of custom statements can be out of order.
-/
theorem statements_keysAscend_iff (arn : BucketArn) (configuration : Configuration) :
    (∀ statement ∈ (Policy.statements arn configuration).map Prod.snd, statement.KeysAscend) ↔
      ∀ statement ∈ configuration.statements, statement.KeysAscend :=
  forall_statements_iff named_keysAscend_iff (denial_keysAscend ..) (allowTrusted_keysAscend ..)
    (denial_keysAscend ..) (denial_keysAscend ..)

end Policy

/-- The artifact of a configuration has the keys of its custom statements, besides the baseline. -/
theorem Configuration.artifact?_keysAscend_iff {configuration : Configuration} {artifact : Artifact}
    (isArtifact : configuration.artifact? = some artifact) :
    (∀ statement ∈ artifact.statements, statement.KeysAscend) ↔
      ∀ statement ∈ configuration.statements, statement.KeysAscend := by
  rcases Option.map_eq_some_iff.mp isArtifact with ⟨statements, policy, rfl⟩
  rcases Option.map_eq_some_iff.mp policy with ⟨arn, -, rfl⟩
  exact Policy.statements_keysAscend_iff arn configuration

end BucketGuard
