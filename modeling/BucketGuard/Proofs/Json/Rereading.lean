import BucketGuard.Proofs.Json.WrittenKeys

namespace BucketGuard

/-! Written values that are read and written again. Reading gives back the value that was written,
and writing it again sorts its members by the texts of their keys. So a second text is the first one
exactly where the texts of the keys were in order already. -/

namespace Json

/-- Values with one text are one value. -/
theorem print_injective {left right : Json} (leftWellFormed : left.WellFormed)
    (rightWellFormed : right.WellFormed) {layout : Layout} (blank : layout.IsBlank)
    (same : left.print layout = right.print layout) : left = right := by
  have noSpace : Blank [] := fun _ member => nomatch member
  have ofLeft := read_print leftWellFormed blank noSpace
  rw [same, read_print rightWellFormed blank noSpace] at ofLeft
  exact (Except.ok.inj ofLeft).symm

/-- In every object the members stand in the order of their keys. -/
abbrev Ascending (value : Json) : Prop :=
  value.Every (fun _ => True) (List.Pairwise (· ≤ ·))

theorem sorted_iff {members : List (String × Json)} :
    Members.Sorted keyLess members ↔ (members.map Prod.fst).Pairwise (· ≤ ·) := by
  rw [Members.Sorted, List.pairwise_map]
  exact List.Pairwise.iff fun _ _ => decide_eq_false_iff_not.trans String.not_lt

private theorem map_eq_self_iff {α : Type} {change : α → α} {items : List α} :
    items.map change = items ↔ ∀ item ∈ items, change item = item := by
  refine Iff.trans ?_ (List.map_eq_map_iff (f := change) (g := id))
  rw [List.map_id]

/-- Ordering changes a value unless its members stand in order. -/
theorem ordered_eq_self_iff {value : Json} : value.ordered = value ↔ value.Ascending := by
  induction value using Tree.inductionOn with
  | leaf value => exact iff_of_true rfl (.leaf trivial)
  | arr items induction =>
      rw [ordered, orderedItems_eq_map, Tree.arr.injEq, map_eq_self_iff]
      exact (forall₂_congr induction).trans Tree.every_arr_iff.symm
  | obj members induction =>
      have values : orderedMembers members = members ↔
          ∀ member ∈ members, Ascending member.2 := by
        rw [orderedMembers_eq_map, map_eq_self_iff]
        refine forall₂_congr fun member isMember => ?_
        rw [← induction member isMember]
        exact ⟨congrArg Prod.snd, congrArg (Prod.mk member.1)⟩
      refine Iff.trans ?_ Tree.every_obj_iff.symm
      rw [ordered, Tree.obj.injEq, ← values, ← sorted_iff]
      constructor
      · intro same
        have sorted := Members.sorted_sortBy isOrder_keyLess (orderedMembers members)
        have ofMembers : Members.Sorted keyLess members := same ▸ sorted
        have ofValues : Members.Sorted keyLess (orderedMembers members) := by
          rwa [sorted_iff, keys_orderedMembers, ← sorted_iff]
        exact ⟨ofMembers, (Members.sortBy_of_sorted ofValues).symm.trans same⟩
      · rintro ⟨sorted, same⟩
        rw [same, Members.sortBy_of_sorted sorted]

theorem ascending_ordered (value : Json) : value.ordered.Ascending :=
  ordered_eq_self_iff.mp value.ordered_ordered

/-- Writing a value again gives its text exactly where its members stand in order. -/
theorem canonical_eq_print_iff {value : Json} (wellFormed : value.WellFormed) {layout : Layout}
    (blank : layout.IsBlank) : value.canonical layout = value.print layout ↔ value.Ascending := by
  rw [← ordered_eq_self_iff]
  refine ⟨print_injective wellFormed.ordered wellFormed blank, fun same => ?_⟩
  rw [canonical, same]

end Json

namespace Scalar

/-- Keys of one family that are written alike are the same key. -/
theorem eq_of_keyText_eq {left right : Scalar} (leftInForm : left.InForm)
    (rightInForm : right.InForm) (families : left.family = right.family)
    (same : left.keyText = right.keyText) : left = right := by
  by_cases isText : ∃ text, left = .str text
  · rcases isText with ⟨text, rfl⟩
    cases right with
    | str other => rw [show text = other from same]
    | _ => contradiction
  · have noText {key : Scalar} (ofFamily : left.family = key.family) (text : String) :
        key ≠ .str text := by
      rintro rfl
      cases left with
      | str other => exact isText ⟨other, rfl⟩
      | _ => contradiction
    have written {key : Scalar} (noText : ∀ text, key ≠ .str text) :
        key.keyText.toList = Json.writeScalar key := by
      cases key with
      | str text => exact absurd rfl (noText text)
      | _ => exact String.toList_ofList
    have ofLeft := Json.readScalar?_writeScalar (noText rfl) leftInForm Json.ends_nil
    have ofRight := Json.readScalar?_writeScalar (noText families) rightInForm Json.ends_nil
    rw [← written (noText rfl), same, written (noText families), ofRight] at ofLeft
    exact (Prod.mk.inj (Option.some.inj ofLeft)).1.symm

end Scalar

namespace Document

/-- Keys that differ, each in the form that reading gives. -/
structure KeysHold (keys : List Scalar) : Prop where
  distinct : Scalar.Distinct keys
  inForm : ∀ key ∈ keys, key.InForm

/-- Every key of an object stands once in it, and every scalar is in form. -/
abbrev WellFormed (document : Document) : Prop := document.Every Scalar.InForm KeysHold

/-- In every object the texts of the keys are written in their order. -/
abbrev Ascending (document : Document) : Prop :=
  document.Every (fun _ => True) fun keys => (keyTexts keys).Pairwise (· ≤ ·)

theorem keysHold_str {texts : List String} (nodup : texts.Nodup) : KeysHold (texts.map .str) where
  distinct := by
    rw [Scalar.Distinct, List.pairwise_map]
    refine nodup.imp fun different => Bool.eq_false_iff.mpr fun same => ?_
    rcases Scalar.sameKey_iff.mp same with equal | ⟨_, _, number, -⟩
    · exact different (Scalar.str.inj equal)
    · contradiction
  inForm key member := by
    rcases List.mem_map.mp member with ⟨text, -, rfl⟩
    trivial

private theorem nodup_keyTexts {keys : List Scalar} (inOrder : orderFault? keys = none)
    (keysHold : KeysHold keys) : (keyTexts keys).Nodup := by
  have families := (orderFault?_eq_none_iff keysHold.distinct).mp inOrder
  rw [(keyTexts_perm keys).nodup_iff, List.Nodup, List.pairwise_map]
  refine keysHold.distinct.imp_of_mem fun {left right} isLeft isRight different same => ?_
  have equal := Scalar.eq_of_keyText_eq (keysHold.inForm left isLeft) (keysHold.inForm right isRight)
    (families left isLeft right isRight) same
  rw [equal, Scalar.sameKey_refl] at different
  contradiction

theorem WellFormed.ordered {document : Document} (wellFormed : document.WellFormed) {value : Json}
    (written : document.ordered = .ok value) : value.WellFormed :=
  (every_ordered_iff written).mpr <|
    (every_orderFault?_eq_none ⟨value, written⟩).imp₂ wellFormed (fun _ _ inForm => inForm)
      fun _ => nodup_keyTexts

/-- Writing a document orders its members unless the texts of its keys are in order. -/
theorem ascending_iff_of_ordered {document : Document} {value : Json}
    (written : document.ordered = .ok value) : value.Ascending ↔ document.Ascending :=
  every_ordered_iff written

theorem wellFormed_ofJson {value : Json} (wellFormed : value.WellFormed) :
    (ofJson value).WellFormed :=
  every_ofJson_iff.mpr <| wellFormed.imp₂ wellFormed (fun _ inForm _ => inForm)
    fun _ nodup _ => keysHold_str nodup

theorem ascending_ofJson (value : Json) : (ofJson value).Ascending :=
  every_ofJson_iff.mpr (Tree.every_of_forall (fun _ => trivial) keyTexts_str_ascend value)

theorem wellFormed_ofFields {fields : List (String × Document)}
    (nodup : (fields.map Prod.fst).Nodup) (values : ∀ field ∈ fields, field.2.WellFormed) :
    (ofFields fields).WellFormed :=
  every_ofFields_iff.mpr ⟨keysHold_str nodup, values⟩

theorem ascending_ofFields_iff {fields : List (String × Document)} :
    (ofFields fields).Ascending ↔ ∀ field ∈ fields, field.2.Ascending :=
  every_ofFields_iff.trans (and_iff_right (keyTexts_str_ascend _))

end Document

end BucketGuard
