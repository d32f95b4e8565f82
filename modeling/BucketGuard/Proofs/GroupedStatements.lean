import BucketGuard.Proofs.Grouping
import BucketGuard.Proofs.Members
import BucketGuard.Proofs.Writability
import Mathlib.Data.List.Basic

namespace BucketGuard

/-! Statements as they are grouped. Where kinds, tests and context keys are text, the groups of a
statement are known in full: there is one for every text that occurs, at the place of its first
member, and it holds what the members with that text hold, in their order. -/

/-- Behind what occurred before, an item counts only if it is new. -/
theorem eraseDups_concat {α : Type} [DecidableEq α] (items : List α) (item : α) :
    (items ++ [item]).eraseDups =
      if item ∈ items then items.eraseDups else items.eraseDups ++ [item] := by
  rw [List.eraseDups_append]
  by_cases seen : item ∈ items <;> simp [List.removeAll, seen, List.eraseDups_cons]

/-! ## Groups under texts -/

namespace Members

section Texts

variable {ι α : Type} (text : ι → String) (join : ι → List α → List α)

/-- An entry as an item under its text. -/
def ofText (entry : ι) : Item α := (.str (text entry), join entry)

private theorem sameKey_str (left right : String) :
    Scalar.sameKey (.str left) (.str right) = decide (left = right) := by
  simp [Scalar.sameKey, Scalar.magnitude?]

private theorem keys_extend_str {groups : List (Scalar × List α)} {texts : List String}
    (keys : groups.map Prod.fst = texts.map .str) (key : String) (join : List α → List α) :
    (extend groups (.str key) join).map Prod.fst =
      (if key ∈ texts then texts else texts ++ [key]).map .str := by
  induction groups generalizing texts with
  | nil =>
      rw [List.map_eq_nil_iff.mp keys.symm]
      rfl
  | cons group rest induction =>
      rcases List.map_eq_cons_iff.mp keys.symm with ⟨first, others, rfl, isFirst, ofOthers⟩
      rw [extend, ← isFirst, sameKey_str]
      by_cases same : first = key
      · simp [same, ofOthers]
      · simp only [same, decide_false, Bool.false_eq_true, if_false, List.map_cons,
          induction ofOthers.symm, List.mem_cons, Ne.symm same, false_or]
        split <;> rfl

/-- The groups stand in the order in which their texts occur first. -/
private theorem keys_collect_str {groups : List (Scalar × List α)} {texts : List String}
    (keys : groups.map Prod.fst = texts.eraseDups.map .str) (entries : List ι) :
    (collect groups (entries.map (ofText text join))).map Prod.fst =
      (texts ++ entries.map text).eraseDups.map .str := by
  induction entries generalizing groups texts with
  | nil =>
      refine keys.trans ?_
      rw [List.map_nil, List.append_nil]
  | cons entry rest induction =>
      have extended := keys_extend_str keys (text entry) (join entry)
      simp only [List.mem_eraseDups, ← eraseDups_concat] at extended
      have collected := induction extended
      rw [List.append_assoc] at collected
      exact collected

private theorem foldl_some (items : List (Item α)) (values : List α) :
    items.foldl (fun values item => some (item.2 (values.getD []))) (some values) =
      some (items.foldl (fun values item => item.2 values) values) := by
  induction items generalizing values with
  | nil => rfl
  | cons item rest induction => exact induction _

/-- What the entries with a text leave under it. -/
def joined (entries : List ι) (key : String) : List α :=
  (entries.filter (text · = key)).foldl (fun values entry => join entry values) []

private theorem under_collect_str {entries : List ι} {key : String}
    (occurs : key ∈ entries.map text) :
    under (collect [] (entries.map (ofText text join))) (.str key) =
      some (joined text join entries key) := by
  have own : (entries.map (ofText text join)).filter (·.1.sameKey (.str key)) =
      (entries.filter (text · = key)).map (ofText text join) := by
    rw [List.filter_map]
    congr 1
    exact List.filter_congr fun entry _ => sameKey_str (text entry) key
  rcases List.mem_map.mp occurs with ⟨entry, member, isText⟩
  have someOwn : entries.filter (text · = key) ≠ [] :=
    List.ne_nil_of_mem (List.mem_filter.mpr ⟨member, decide_eq_true isText⟩)
  rw [under_collect, own, joined]
  cases found : entries.filter (text · = key) with
  | nil => exact absurd found someOwn
  | cons first rest =>
      refine (foldl_some _ _).trans ?_
      rw [List.foldl_map]
      rfl

private theorem eq_map_of_keys {κ β : Type} {name : String → κ} {value : String → β}
    {groups : List (κ × β)} {texts : List String} (keys : groups.map Prod.fst = texts.map name)
    (values : ∀ text held, (name text, held) ∈ groups → held = value text) :
    groups = texts.map fun text => (name text, value text) := by
  induction texts generalizing groups with
  | nil => exact List.map_eq_nil_iff.mp keys
  | cons text rest induction =>
      rcases List.map_eq_cons_iff.mp keys with ⟨⟨_, held⟩, others, rfl, rfl, ofOthers⟩
      have first : held = value text := values text held (List.mem_cons_self ..)
      have later := induction ofOthers fun text held member =>
        values text held (List.mem_cons_of_mem _ member)
      rw [List.map_cons, ← later, ← first]

/-- One group for every text that occurs, with what the entries with that text leave in it. -/
theorem collect_ofText (entries : List ι) :
    collect [] (entries.map (ofText text join)) =
      (entries.map text).eraseDups.map fun key => (.str key, joined text join entries key) := by
  have noKeys : ([] : List (Scalar × List α)).map Prod.fst =
      ([] : List String).eraseDups.map Scalar.str := rfl
  have keys : (collect [] (entries.map (ofText text join))).map Prod.fst =
      (entries.map text).eraseDups.map .str := keys_collect_str text join noKeys entries
  have distinct : Scalar.Distinct ((collect [] (entries.map (ofText text join))).map Prod.fst) :=
    distinct_collect _ List.Pairwise.nil
  refine eq_map_of_keys keys fun key held member => ?_
  have isKey : Scalar.str key ∈ (entries.map text).eraseDups.map .str :=
    keys ▸ List.mem_map.mpr ⟨_, member, rfl⟩
  rcases List.mem_map.mp isKey with ⟨_, occurs, ⟨⟩⟩
  have found := under_eq_of_mem distinct member
  rw [under_collect_str text join (List.mem_eraseDups.mp occurs)] at found
  exact (Option.some.inj found).symm

end Texts

end Members

namespace Json

/-- The text that a value is. -/
def text (value : Json) : String := value.str?.getD ""

theorem eq_str_text {value : Json} (isText : value.str?.isSome) : value = .str value.text := by
  cases value with
  | leaf scalar => cases scalar <;> first | rfl | contradiction
  | arr items => contradiction
  | obj members => contradiction

theorem text_eq_iff {value : Json} (isText : value.str?.isSome) {text : String} :
    value.text = text ↔ value = .str text := by
  constructor
  · rintro rfl
    exact eq_str_text isText
  · rintro rfl
    rfl

end Json

/-- The texts that a part of the entries is, each once. -/
def textsOf {ι : Type} (part : ι → Json) (entries : List ι) : List String :=
  (entries.filterMap fun entry => (part entry).str?).eraseDups

/-- The entries whose part is a text. -/
def withText {ι : Type} (part : ι → Json) (entries : List ι) (text : String) : List ι :=
  entries.filter (part · = .str text)

namespace Members

variable {ι α : Type} {part : ι → Json} {entries : List ι}

/-- Entries whose parts are text are grouped by what these texts are. -/
theorem collect_textsOf (texts : ∀ entry ∈ entries, (part entry).str?.isSome)
    (join : ι → List α → List α) :
    collect [] (entries.map (ofText (fun entry => (part entry).text) join)) =
      (textsOf part entries).map fun text =>
        (.str text, (withText part entries text).foldl (fun values entry => join entry values) [])
    := by
  have occurring : entries.filterMap (fun entry => (part entry).str?) =
      entries.map fun entry => (part entry).text := by
    refine List.filterMap_eq_map_iff_forall_eq_some.mpr fun entry member => ?_
    rw [Json.eq_str_text (texts entry member)]
    rfl
  rw [collect_ofText, textsOf, occurring]
  refine List.map_congr_left fun text _ => ?_
  rw [joined, withText]
  congr 2
  refine List.filter_congr fun entry member => ?_
  rw [decide_eq_decide, Json.text_eq_iff (texts entry member)]

end Members

/-! ## Principals -/

namespace PrincipalSet

variable {sets : List PrincipalSet}

/-- One object for all kinds, with the identifiers of all sets of a kind under it. -/
def byKind (sets : List PrincipalSet) : Document :=
  .obj ((textsOf kind sets).map fun text =>
    (.str text, valuesDocument ((withText kind sets text).flatMap identifiers)))

theorem document_eq (kinds : ∀ set ∈ sets, set.kind.str?.isSome) :
    PrincipalSet.document sets =
      .ok (if sets = [.wildcard] then .str "*" else byKind sets) := by
  have items : sets.mapM item = .ok (sets.map (Members.ofText (fun set => set.kind.text)
      fun set values => values ++ set.identifiers)) := by
    refine Except.mapM_eq_map fun set member => ?_
    rw [item, Json.eq_str_text (kinds set member)]
    rfl
  rw [PrincipalSet.document]
  split
  · rfl
  · rw [grouped_eq, items]
    change Except.ok (Tree.obj _) = _
    rw [Members.collect_textsOf kinds, byKind, List.map_map]
    simp only [List.flatMap_eq_foldl]
    rfl

end PrincipalSet

/-! ## Conditions -/

namespace Condition

variable {conditions : List Condition}

/-- What one condition adds is what is new in it. -/
theorem addValues_eraseDups (present values : List Json) :
    addValues present.eraseDups values = (present ++ values).eraseDups := by
  induction values generalizing present with
  | nil => rw [addValues, List.append_nil]
  | cons value rest induction =>
      rw [addValues]
      simp only [List.mem_eraseDups, ← eraseDups_concat]
      rw [induction, List.append_assoc]
      rfl

theorem foldl_addValues (conditions : List Condition) (present : List Json) :
    conditions.foldl (fun values condition => addValues values condition.values)
        present.eraseDups =
      (present ++ conditions.flatMap values).eraseDups := by
  induction conditions generalizing present with
  | nil => rw [List.foldl_nil, List.flatMap_nil, List.append_nil]
  | cons condition rest induction =>
      rw [List.foldl_cons, addValues_eraseDups, induction, List.append_assoc, List.flatMap_cons]

/-- One object for all context keys, with the values of all conditions on a key under it, each
once. -/
def byKey (conditions : List Condition) : Document :=
  .obj ((textsOf key conditions).map fun text =>
    (.str text, valuesDocument ((withText key conditions text).flatMap values).eraseDups))

/-- One object for all tests, with the conditions of a test under it. -/
def byTest (conditions : List Condition) : Document :=
  .obj ((textsOf test conditions).map fun text => (.str text, byKey (withText test conditions text)))

/-- The condition with its test and context key as texts. -/
private def textEntry (condition : Condition) : Entry :=
  { test := .str condition.test.text, key := .str condition.key.text, values := condition.values }

theorem keysDocument_eq (keys : ∀ condition ∈ conditions, condition.key.str?.isSome) :
    keysDocument (conditions.foldl
      (fun keys condition => (textEntry condition).outer.2 keys) []) = byKey conditions := by
  have collected := Members.collect_textsOf keys fun condition values =>
    addValues values condition.values
  rw [Members.collect, List.foldl_map] at collected
  have values (text : String) := foldl_addValues (withText key conditions text) []
  simp only [List.eraseDups_nil, List.nil_append] at values
  simp only [values] at collected
  exact (congrArg keysDocument collected).trans
    (congrArg Tree.obj (List.map_map ..))

theorem document_eq
    (texts : ∀ condition ∈ conditions, condition.test.str?.isSome ∧ condition.key.str?.isSome) :
    Condition.document conditions = .ok (byTest conditions) := by
  have entries : conditions.mapM entry = .ok (conditions.map textEntry) := by
    refine Except.mapM_eq_map fun condition member => ?_
    rcases texts condition member with ⟨test, key⟩
    rw [entry, Json.eq_str_text test, Json.eq_str_text key]
    rfl
  have groups := Members.collect_textsOf (fun condition member => (texts condition member).1)
    fun condition => (textEntry condition).outer.2
  rw [Condition.document, grouped_eq, entries]
  change Except.ok (Tree.obj ((Members.collect [] ((conditions.map textEntry).map _)).map
    fun group => (group.1, keysDocument group.2))) = _
  rw [List.map_map]
  refine congrArg (Except.ok ∘ Tree.obj) ?_
  refine (congrArg _ groups).trans ?_
  rw [List.map_map]
  refine List.map_congr_left fun text _ => ?_
  refine congrArg (Prod.mk _) (keysDocument_eq fun condition member => ?_)
  exact (texts condition (List.mem_filter.mp member).1).2

end Condition

/-! ## Whole statements -/

namespace Statement

private theorem part_eq {α : Type} [DecidableEq α] (name : String)
    {render : List α → Except KeyFault Document} {items : List α} {document : Document}
    (rendered : render items = .ok document) :
    part name render items =
      .ok (Members.optional name (if items = [] then none else some document)) := by
  cases items with
  | nil => rfl
  | cons item rest =>
      change (render (item :: rest) >>= fun document => .ok [(name, document)]) = _
      rw [rendered, if_neg (List.cons_ne_nil item rest)]
      rfl

/-- Grouping loses nothing and adds nothing. Principals are written as one object, with a list for
every kind that occurs and all identifiers of that kind in it, unless everyone alone is meant.
Conditions are written as one object, with an object for every test that occurs; in it is a list for
every context key that occurs with that test, and in that list are the values of all conditions with
that test and key, each where it came first. -/
theorem document_grouped (statement : Statement)
    (kinds : ∀ set ∈ statement.principals, set.kind.str?.isSome)
    (texts : ∀ condition ∈ statement.conditions,
      condition.test.str?.isSome ∧ condition.key.str?.isSome) :
    ∃ members, statement.document = .ok (.ofFields members) ∧
      Members.get? members "Principal" =
        (if statement.principals = [] then none
        else some
          (if statement.principals = [.wildcard] then .str "*"
          else PrincipalSet.byKind statement.principals)) ∧
      Members.get? members "Condition" =
        (if statement.conditions = [] then none
        else some (Condition.byTest statement.conditions)) := by
  have principals := part_eq "Principal" (PrincipalSet.document_eq kinds)
  have conditions := part_eq "Condition" (Condition.document_eq texts)
  rw [document, principals, conditions]
  -- Beside the two parts there are only members under other names.
  refine ⟨_, rfl, ?_, ?_⟩ <;>
    by_cases noName : statement.sid = .null <;>
      simp [noName, Members.get?_append, Members.get?, Members.get?_optional]

/-- Groups whose members stand apart. -/
def interleaved : Statement :=
  { sid := .null
    effect := .str "Allow"
    principals := [
      { kind := .str "AWS", identifiers := [.str "111111111111", .str "222222222222"] },
      { kind := .str "Service", identifiers := [.str "logging.s3.amazonaws.com"] },
      { kind := .str "AWS", identifiers := [.str "111111111111"] }]
    actions := [.str "s3:GetObject"]
    resources := [.str "*"]
    conditions := [
      { test := .str "StringEquals", key := .str "aws:SourceVpce", values := [.str "a", .str "b"] },
      { test := .str "Bool", key := .str "aws:SecureTransport", values := [.str "true"] },
      { test := .str "StringEquals", key := .str "aws:SourceAccount", values := [.str "c"] },
      { test := .str "StringEquals", key := .str "aws:SourceVpce", values := [.str "b", .str "d"] }] }

theorem document_interleaved :
    ∃ members, interleaved.document = .ok (.ofFields members) ∧
      Members.get? members "Principal" = some (.obj [
        (.str "AWS", valuesDocument [.str "111111111111", .str "222222222222", .str "111111111111"]),
        (.str "Service", valuesDocument [.str "logging.s3.amazonaws.com"])]) ∧
      Members.get? members "Condition" = some (.obj [
        (.str "StringEquals", .obj [
          (.str "aws:SourceVpce", valuesDocument [.str "a", .str "b", .str "d"]),
          (.str "aws:SourceAccount", valuesDocument [.str "c"])]),
        (.str "Bool", .obj [(.str "aws:SecureTransport", valuesDocument [.str "true"])])]) :=
  document_grouped interleaved (by decide) (by decide)

end Statement

end BucketGuard
