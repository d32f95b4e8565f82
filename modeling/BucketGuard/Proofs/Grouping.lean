import BucketGuard.Document.Policy
import BucketGuard.Proofs.Json.KeyOrder
import BucketGuard.Proofs.Outcome

namespace BucketGuard

/-! Grouping by key. Items are collected one after another, each under the first key that equals its
own, so what stands under a key is made of the items with that key alone, in their order. -/

namespace Members

variable {α : Type}

/-- What to do to the values under a key. -/
abbrev Item (α : Type) := Scalar × (List α → List α)

/-- Groups with the items collected into them. -/
def collect (groups : List (Scalar × List α)) (items : List (Item α)) :
    List (Scalar × List α) :=
  items.foldl (fun groups item => extend groups item.1 item.2) groups

/-- The values under the first key that equals a key. -/
def under (groups : List (Scalar × List α)) (key : Scalar) : Option (List α) :=
  match groups with
  | [] => none
  | (other, values) :: rest => if other.sameKey key then some values else under rest key

/-! ## One item -/

theorem mem_keys_extend {groups : List (Scalar × List α)} {key other : Scalar}
    {join : List α → List α} (member : other ∈ (extend groups key join).map Prod.fst) :
    other ∈ groups.map Prod.fst ∨ other = key := by
  induction groups with
  | nil => exact .inr (List.mem_singleton.mp member)
  | cons group rest induction =>
      rw [extend] at member
      split at member
      · exact .inl member
      · rcases List.mem_cons.mp member with rfl | later
        · exact .inl (List.mem_cons_self ..)
        · exact (induction later).imp (List.mem_cons_of_mem _) id

/-- Nothing is lost, and the key is there or a key that equals it. -/
theorem exists_key_extend (groups : List (Scalar × List α)) (key : Scalar)
    (join : List α → List α) :
    (∀ other ∈ groups.map Prod.fst, other ∈ (extend groups key join).map Prod.fst) ∧
      ∃ other ∈ (extend groups key join).map Prod.fst, other.sameKey key := by
  induction groups with
  | nil =>
      refine ⟨fun _ member => ?_, key, List.mem_singleton.mpr rfl, key.sameKey_refl⟩
      contradiction
  | cons group rest induction =>
      rw [extend]
      split
      · rename_i same
        exact ⟨fun _ member => member, group.1, List.mem_cons_self .., same⟩
      · rcases induction with ⟨kept, other, member, same⟩
        refine ⟨fun name isName => ?_, other, List.mem_cons_of_mem _ member, same⟩
        rcases List.mem_cons.mp isName with rfl | later
        · exact List.mem_cons_self ..
        · exact List.mem_cons_of_mem _ (kept name later)

theorem distinct_extend {groups : List (Scalar × List α)} (key : Scalar)
    (join : List α → List α) (distinct : Scalar.Distinct (groups.map Prod.fst)) :
    Scalar.Distinct ((extend groups key join).map Prod.fst) := by
  induction groups with
  | nil => exact List.pairwise_singleton _ _
  | cons group rest induction =>
      rw [extend]
      split
      · exact distinct
      · rename_i different
        rw [List.map_cons, Scalar.Distinct, List.pairwise_cons] at distinct ⊢
        refine ⟨fun other member => ?_, induction distinct.2⟩
        rcases mem_keys_extend member with earlier | rfl
        · exact distinct.1 other earlier
        · exact Bool.eq_false_iff.mpr different

theorem under_extend (groups : List (Scalar × List α)) (key other : Scalar)
    (join : List α → List α) :
    under (extend groups key join) other =
      if key.sameKey other then some (join ((under groups other).getD []))
      else under groups other := by
  induction groups with
  | nil => rfl
  | cons group rest induction =>
      rw [extend]
      -- Where the first group takes the item in, the keys equal each other, so both look-ups agree.
      by_cases isKey : group.1.sameKey key
      · rw [if_pos isKey, under, under]
        by_cases same : key.sameKey other
        · rw [if_pos same, if_pos (Scalar.sameKey_trans isKey same),
            if_pos (Scalar.sameKey_trans isKey same)]
          rfl
        · have different : ¬group.1.sameKey other := fun equal =>
            same (Scalar.sameKey_trans (Scalar.sameKey_symm isKey) equal)
          rw [if_neg same, if_neg different, if_neg different]
      · rw [if_neg isKey, under, under]
        by_cases found : group.1.sameKey other
        · have different : ¬key.sameKey other := fun same =>
            isKey (Scalar.sameKey_trans found (Scalar.sameKey_symm same))
          rw [if_pos found, if_pos found, if_neg different]
        · rw [if_neg found, if_neg found, induction]

theorem values_extend {holds : List α → Prop} {groups : List (Scalar × List α)}
    (ofGroups : ∀ group ∈ groups, holds group.2) (key : Scalar) {join : List α → List α}
    (ofNone : holds (join [])) (ofJoin : ∀ values, holds values → holds (join values)) :
    ∀ group ∈ extend groups key join, holds group.2 := by
  induction groups with
  | nil => exact List.forall_mem_singleton.mpr ofNone
  | cons group rest induction =>
      rcases List.forall_mem_cons.mp ofGroups with ⟨first, others⟩
      rw [extend]
      split
      · exact List.forall_mem_cons.mpr ⟨ofJoin _ first, others⟩
      · exact List.forall_mem_cons.mpr ⟨first, induction others⟩

/-! ## All items -/

theorem mem_keys_collect {groups : List (Scalar × List α)} {items : List (Item α)}
    {key : Scalar} (member : key ∈ (collect groups items).map Prod.fst) :
    key ∈ groups.map Prod.fst ∨ key ∈ items.map Prod.fst := by
  induction items generalizing groups with
  | nil => exact .inl member
  | cons item rest induction =>
      rcases induction member with early | late
      · rcases mem_keys_extend early with isThere | rfl
        · exact .inl isThere
        · exact .inr (List.mem_cons_self ..)
      · exact .inr (List.mem_cons_of_mem _ late)

theorem exists_key_collect (groups : List (Scalar × List α)) (items : List (Item α)) :
    (∀ key ∈ groups.map Prod.fst, key ∈ (collect groups items).map Prod.fst) ∧
      ∀ key ∈ items.map Prod.fst,
        ∃ other ∈ (collect groups items).map Prod.fst, other.sameKey key := by
  induction items generalizing groups with
  | nil => exact ⟨fun _ member => member, fun _ member => nomatch member⟩
  | cons item rest induction =>
      rcases exists_key_extend groups item.1 item.2 with ⟨kept, first, isFirst, same⟩
      rcases induction (extend groups item.1 item.2) with ⟨keptLater, found⟩
      refine ⟨fun key member => keptLater key (kept key member), fun key member => ?_⟩
      rcases List.mem_cons.mp member with rfl | later
      · exact ⟨first, keptLater first isFirst, same⟩
      · exact found key later

theorem distinct_collect {groups : List (Scalar × List α)} (items : List (Item α))
    (distinct : Scalar.Distinct (groups.map Prod.fst)) :
    Scalar.Distinct ((collect groups items).map Prod.fst) := by
  induction items generalizing groups with
  | nil => exact distinct
  | cons item rest induction => exact induction (distinct_extend item.1 item.2 distinct)

/-- Under a key stand the items with that key, joined in their order. -/
theorem under_collect (groups : List (Scalar × List α)) (items : List (Item α)) (key : Scalar) :
    under (collect groups items) key =
      (items.filter (·.1.sameKey key)).foldl
        (fun values item => some (item.2 (values.getD []))) (under groups key) := by
  induction items generalizing groups with
  | nil => rfl
  | cons item rest induction =>
      rw [collect, List.foldl_cons]
      refine (induction _).trans ?_
      rw [under_extend]
      by_cases same : item.1.sameKey key
      · rw [if_pos same, List.filter_cons, if_pos same, List.foldl_cons]
      · rw [if_neg same, List.filter_cons, if_neg same]

theorem under_eq_of_mem {groups : List (Scalar × List α)} {key : Scalar} {values : List α}
    (distinct : Scalar.Distinct (groups.map Prod.fst)) (member : (key, values) ∈ groups) :
    under groups key = some values := by
  induction groups with
  | nil => contradiction
  | cons group rest induction =>
      rw [List.map_cons, Scalar.Distinct, List.pairwise_cons] at distinct
      rcases List.mem_cons.mp member with rfl | later
      · rw [under, if_pos key.sameKey_refl]
      · have different := distinct.1 key (List.mem_map.mpr ⟨_, later, rfl⟩)
        rw [under, if_neg (Bool.eq_false_iff.mp different)]
        exact induction distinct.2 later

theorem exists_mem_of_under {groups : List (Scalar × List α)} {key : Scalar} {values : List α}
    (found : under groups key = some values) :
    ∃ other, (other, values) ∈ groups ∧ other.sameKey key := by
  induction groups with
  | nil => contradiction
  | cons group rest induction =>
      rw [under] at found
      split at found
      · rename_i same
        cases found
        exact ⟨group.1, List.mem_cons_self .., same⟩
      · rcases induction found with ⟨other, member, same⟩
        exact ⟨other, List.mem_cons_of_mem _ member, same⟩

/-- Groups have an order if the keys of the items are of one family, and only then. -/
theorem orderFault?_collect_eq_none_iff (items : List (Item α)) :
    Document.orderFault? ((collect [] items).map Prod.fst) = none ↔
      Scalar.OfOneFamily (items.map Prod.fst) := by
  have found := (exists_key_collect [] items).2
  have distinct : Scalar.Distinct ((collect [] items).map Prod.fst) :=
    distinct_collect items List.Pairwise.nil
  rw [Document.orderFault?_eq_none_iff distinct]
  constructor
  · intro ofGroups left leftMember right rightMember
    rcases found left leftMember with ⟨first, isFirst, sameLeft⟩
    rcases found right rightMember with ⟨second, isSecond, sameRight⟩
    rw [← Scalar.family_eq_of_sameKey sameLeft, ← Scalar.family_eq_of_sameKey sameRight]
    exact ofGroups first isFirst second isSecond
  · intro ofItems left leftMember right rightMember
    have isItem {key : Scalar} (member : key ∈ (collect [] items).map Prod.fst) :
        key ∈ items.map Prod.fst :=
      (mem_keys_collect member).resolve_left List.not_mem_nil
    exact ofItems left (isItem leftMember) right (isItem rightMember)

end Members

/-! ## Principals and conditions as items -/

namespace PrincipalSet

/-- The set under its kind, if the kind can be a key. -/
def item (set : PrincipalSet) : Except KeyFault (Members.Item Json) :=
  set.kind.key.map fun kind => (kind, (· ++ set.identifiers))

theorem grouped_eq (groups : List (Scalar × List Json)) (sets : List PrincipalSet) :
    grouped groups sets = (sets.mapM item).map (Members.collect groups) := by
  induction sets generalizing groups with
  | nil => rfl
  | cons set rest induction =>
      rw [grouped, List.mapM_cons, item]
      cases set.kind.key with
      | error fault => rfl
      | ok kind =>
          refine (induction _).trans ?_
          cases rest.mapM item <;> rfl

end PrincipalSet

namespace Condition

/-- A condition whose test and context key can be keys. -/
structure Entry where
  test : Scalar
  key : Scalar
  values : List Json

def entry (condition : Condition) : Except KeyFault Entry := do
  let test ← condition.test.key
  let key ← condition.key.key
  return { test, key, values := condition.values }

/-- The values of the condition under its context key. -/
def Entry.inner (entry : Entry) : Members.Item Json :=
  (entry.key, (addValues · entry.values))

/-- The condition under its test. -/
def Entry.outer (entry : Entry) : Members.Item (Scalar × List Json) :=
  (entry.test, fun keys => Members.extend keys entry.inner.1 entry.inner.2)

theorem grouped_eq (groups : List (Scalar × List (Scalar × List Json)))
    (conditions : List Condition) :
    grouped groups conditions =
      (conditions.mapM entry).map fun entries =>
        Members.collect groups (entries.map Entry.outer) := by
  induction conditions generalizing groups with
  | nil => rfl
  | cons condition rest induction =>
      rw [grouped, List.mapM_cons, entry]
      cases condition.test.key with
      | error fault => rfl
      | ok test =>
          cases condition.key.key with
          | error fault => rfl
          | ok key =>
              refine (induction _).trans ?_
              cases rest.mapM entry <;> rfl

private theorem foldl_outer (own : List Entry) (values : List (Scalar × List Json)) :
    (own.map Entry.outer).foldl (fun values item => some (item.2 (values.getD [])))
        (some values) =
      some (Members.collect values (own.map Entry.inner)) := by
  induction own generalizing values with
  | nil => rfl
  | cons entry rest induction => exact induction _

/-- Under a test stand the conditions with that test, grouped by context key. -/
theorem under_grouped (entries : List Entry) {test : Scalar}
    (occurs : entries.filter (·.test.sameKey test) ≠ []) :
    Members.under (Members.collect [] (entries.map Entry.outer)) test =
      some (Members.collect []
        ((entries.filter (·.test.sameKey test)).map Entry.inner)) := by
  have own : (entries.map Entry.outer).filter (·.1.sameKey test) =
      (entries.filter (·.test.sameKey test)).map Entry.outer := List.filter_map
  rw [Members.under_collect, own]
  cases found : entries.filter (·.test.sameKey test) with
  | nil => exact absurd found occurs
  | cons entry rest => exact foldl_outer rest _

end Condition

end BucketGuard
