import BucketGuard.Proofs.Json.KeyOrder
import BucketGuard.Proofs.Json.ReadPrint

namespace BucketGuard

/-! Keys as they are written. A document is written with its keys in their own order, and only then
are they turned into text, so the texts of the keys need not be in order. What holds of a written
value is here read off the document that was written. -/

/-! ## Arrangement -/

namespace Members

section Settling

variable {κ α β : Type} (less : κ → κ → Bool) (change : α → β)

/-- Members with their values changed. -/
private abbrev changed (members : List (κ × α)) : List (κ × β) :=
  members.map fun (key, value) => (key, change value)

private theorem settlePlace_map (key : κ) (settled : List (κ × α)) (fuel low high : Nat) :
    settlePlace less key (changed change settled) fuel low high =
      settlePlace less key settled fuel low high := by
  induction fuel generalizing low high with
  | zero => rfl
  | succ fuel induction =>
      simp only [settlePlace, induction, changed, List.getElem?_map, Option.map_map,
        Function.comp_def]

private theorem settleOne_map (settled : List (κ × α)) (member : κ × α) :
    settleOne less (changed change settled) (member.1, change member.2) =
      changed change (settleOne less settled member) := by
  simp only [settleOne, settlePlace_map, changed, List.length_map, List.map_append, List.map_cons,
    List.map_take, List.map_drop]

private theorem foldl_settleOne_map (members settled : List (κ × α)) :
    (changed change members).foldl (settleOne less) (changed change settled) =
      changed change (members.foldl (settleOne less) settled) := by
  rw [changed, List.foldl_map]
  exact List.foldl_hom (changed change) fun settled member =>
    settleOne_map less change settled member

private theorem splitRun_map (goesOn : κ → κ → Bool) (last : κ) (members : List (κ × α)) :
    splitRun goesOn last (changed change members) =
      (changed change (splitRun goesOn last members).1,
        changed change (splitRun goesOn last members).2) := by
  induction members generalizing last with
  | nil => rfl
  | cons member rest induction =>
      by_cases goes : goesOn last member.1
      · have others := induction member.1
        rw [changed] at others
        simp [changed, splitRun, goes, others]
      · simp [changed, splitRun, goes]

theorem settle_map (members : List (κ × α)) :
    settle less (members.map fun (key, value) => (key, change value)) =
      (settle less members).map fun (key, value) => (key, change value) := by
  match members with
  | [] => rfl
  | [_] => rfl
  | first :: second :: rest =>
      have folded (front : List (κ × α) → List (κ × α)) (goesOn : κ → κ → Bool) :=
        foldl_settleOne_map less change (splitRun goesOn second.1 rest).2
          (front (splitRun goesOn second.1 rest).1)
      simp only [settle, List.map_cons]
      split
      · rw [splitRun_map]
        have turned := folded (fun run => (first :: second :: run).reverse) (fun last next =>
          less next last)
        rw [changed, changed, List.map_reverse] at turned
        exact turned
      · rw [splitRun_map]
        exact folded (fun run => first :: second :: run) fun last next => !less next last

private theorem settleOne_perm (settled : List (κ × α)) (member : κ × α) :
    (settleOne less settled member).Perm (member :: settled) := by
  rw [settleOne]
  refine List.perm_middle.trans ?_
  rw [List.take_append_drop]

private theorem splitRun_append (goesOn : κ → κ → Bool) (last : κ) (members : List (κ × α)) :
    (splitRun goesOn last members).1 ++ (splitRun goesOn last members).2 = members := by
  induction members generalizing last with
  | nil => rfl
  | cons member rest induction =>
      rw [splitRun]
      split
      · exact congrArg (member :: ·) (induction member.1)
      · rfl

theorem settle_perm (members : List (κ × α)) : (settle less members).Perm members := by
  match members with
  | [] => exact .refl _
  | [_] => exact .refl _
  | first :: second :: rest =>
      -- The run and what is behind it are all the members, in whichever direction the run goes.
      have whole (goesOn : κ → κ → Bool) {run others : List (κ × α)}
          (split : splitRun goesOn second.1 rest = (run, others)) :
          (others ++ first :: second :: run).Perm (first :: second :: rest) := by
        have parts := splitRun_append goesOn second.1 rest
        rw [split] at parts
        rw [← parts]
        exact List.perm_append_comm
      simp only [settle]
      split
      · refine (foldl_perm (settleOne_perm less) _ _).trans ?_
        exact ((List.reverse_perm _).append_left _).trans (whole _ rfl)
      · exact (foldl_perm (settleOne_perm less) _ _).trans (whole _ rfl)

end Settling

end Members

namespace Document

theorem arrange_map {α β : Type} (change : α → β) (members : List (Scalar × α)) :
    arrange (members.map fun (key, value) => (key, change value)) =
      (arrange members).map fun (key, value) => (key, change value) := by
  have unplaced : (members.map fun (key, value) => (key, change value)).any (·.1.isUnplaced) =
      members.any (·.1.isUnplaced) := List.any_map
  rw [arrange, arrange, unplaced]
  split
  · exact Members.settle_map Scalar.less change members
  · exact Members.sortBy_map id change (fun _ _ => rfl) members

theorem arrange_perm {α : Type} (members : List (Scalar × α)) : (arrange members).Perm members := by
  rw [arrange]
  split
  · exact Members.settle_perm Scalar.less members
  · exact Members.sortBy_perm Scalar.less members

/-- The texts of the keys, in the order in which the keys are written. -/
def keyTexts (keys : List Scalar) : List String :=
  (arrange (keys.map fun key => (key, ()))).map (·.1.keyText)

theorem keyTexts_eq {α : Type} (members : List (Scalar × α)) :
    keyTexts (members.map Prod.fst) = (arrange members).map (·.1.keyText) := by
  have keys : (members.map Prod.fst).map (fun key => (key, ())) =
      members.map fun (key, _) => (key, ()) := by
    rw [List.map_map]
    rfl
  rw [keyTexts, keys, arrange_map fun _ => (), List.map_map]
  rfl

theorem keyTexts_perm (keys : List Scalar) : (keyTexts keys).Perm (keys.map Scalar.keyText) := by
  have perm := (arrange_perm (keys.map fun key => (key, ()))).map (·.1.keyText)
  rwa [List.map_map] at perm

/-- Keys that are texts are written in the order of their texts. -/
theorem keyTexts_str_ascend (texts : List String) :
    (keyTexts (texts.map .str)).Pairwise (· ≤ ·) := by
  have members : (texts.map Scalar.str).map (fun key => (key, ())) =
      (texts.map fun text => (text, ())).map fun (key, value) => (Scalar.str key, value) := by
    rw [List.map_map, List.map_map]
    rfl
  rw [keyTexts, members, arrange_str, List.map_map, List.pairwise_map]
  exact (Members.sorted_sortBy Json.isOrder_keyLess _).imp fun notAbove =>
    String.not_lt.mp (of_decide_eq_false notAbove)

/-! ## What holds of written values -/

private theorem orderedItems_eq_ok {items : List Document} {values : List Json}
    (written : orderedItems items = .ok values) :
    List.Forall₂ (fun item value => item.ordered = .ok value) items values := by
  induction items generalizing values with
  | nil =>
      cases written
      exact .nil
  | cons item rest induction =>
      rcases Except.both_eq_ok_iff.mp written with ⟨first, others, isFirst, areOthers, rfl⟩
      exact .cons isFirst (induction areOthers)

private theorem orderedMembers_eq_ok {members : List (Scalar × Document)}
    {values : List (Scalar × Json)} (written : orderedMembers members = .ok values) :
    List.Forall₂ (fun member value => member.1 = value.1 ∧ member.2.ordered = .ok value.2)
      members values := by
  induction members generalizing values with
  | nil =>
      cases written
      exact .nil
  | cons member rest induction =>
      rcases Except.both_eq_ok_iff.mp written with ⟨first, others, isFirst, areOthers, rfl⟩
      exact .cons ⟨rfl, isFirst⟩ (induction areOthers)

private theorem forall_iff_of_forall₂ {α β : Type} {related : α → β → Prop} {first : α → Prop}
    {second : β → Prop} {lefts : List α} {rights : List β}
    (items : List.Forall₂ related lefts rights)
    (same : ∀ left ∈ lefts, ∀ right, related left right → (second right ↔ first left)) :
    (∀ right ∈ rights, second right) ↔ ∀ left ∈ lefts, first left := by
  induction items with
  | nil => simp
  | cons head _ induction =>
      rw [List.forall_mem_cons, List.forall_mem_cons, same _ (.head _) _ head,
        induction fun left member => same left (.tail _ member)]

theorem ordered_obj_eq_ok {members : List (Scalar × Document)} {value : Json}
    (written : ordered (.obj members) = .ok value) :
    orderFault? (members.map Prod.fst) = none ∧ ∃ values, orderedMembers members = .ok values ∧
      value = .obj ((arrange values).map fun (key, value) => (key.keyText, value)) := by
  rw [ordered] at written
  cases fault : orderFault? (members.map Prod.fst) with
  | some fault =>
      rw [fault] at written
      contradiction
  | none =>
      rw [fault] at written
      rcases Except.bind_eq_ok_iff.mp written with ⟨values, areValues, equal⟩
      exact ⟨rfl, values, areValues, (Except.ok.inj equal).symm⟩

variable {leafHolds : Scalar → Prop} {textsHold : List String → Prop}

/-- A written value has a property at every place if the document has, of the texts of its keys. -/
theorem every_ordered_iff {document : Document} {value : Json}
    (written : document.ordered = .ok value) :
    value.Every leafHolds textsHold ↔
      document.Every leafHolds fun keys => textsHold (keyTexts keys) := by
  induction document using Tree.inductionOn generalizing value with
  | leaf scalar =>
      cases written
      rw [Tree.every_leaf_iff, Tree.every_leaf_iff]
  | arr items induction =>
      rw [ordered, Except.bind_eq_ok_iff] at written
      rcases written with ⟨values, areValues, equal⟩
      cases equal
      rw [Tree.every_arr_iff, Tree.every_arr_iff]
      exact forall_iff_of_forall₂ (orderedItems_eq_ok areValues) fun item member value isValue =>
        induction item member isValue
  | obj members induction =>
      rcases ordered_obj_eq_ok written with ⟨-, values, areValues, rfl⟩
      have inStep := orderedMembers_eq_ok areValues
      have keys : values.map Prod.fst = members.map Prod.fst := by
        clear areValues induction written
        induction inStep with
        | nil => rfl
        | cons first _ induction => rw [List.map_cons, List.map_cons, first.1, induction]
      have texts : ((arrange values).map fun (key, value) => (key.keyText, value)).map Prod.fst =
          keyTexts (members.map Prod.fst) := by
        rw [← keys, keyTexts_eq, List.map_map]
        rfl
      rw [Tree.every_obj_iff, Tree.every_obj_iff, texts, List.forall_mem_map]
      refine and_congr_right fun _ => ?_
      have sameMembers : (∀ member ∈ arrange values, member.2.Every leafHolds textsHold) ↔
          ∀ member ∈ values, member.2.Every leafHolds textsHold :=
        forall_congr' fun _ => by rw [(arrange_perm values).mem_iff]
      rw [sameMembers]
      exact forall_iff_of_forall₂ inStep fun member isMember value related =>
        induction member isMember related.2

theorem every_orderFault?_eq_none {document : Document} (hasText : document.HasText) :
    document.Every (fun _ => True) fun keys => orderFault? keys = none := by
  induction document using Tree.inductionOn with
  | leaf value => exact .leaf trivial
  | arr items induction =>
      exact .arr fun item member => induction item member (hasText_arr_iff.mp hasText item member)
  | obj members induction =>
      rcases hasText_obj_iff.mp hasText with ⟨inOrder, values⟩
      exact .obj inOrder fun member isMember => induction member isMember (values member isMember)

variable {keysHold : List Scalar → Prop}

theorem every_ofFields_iff {fields : List (String × Document)} :
    (ofFields fields).Every leafHolds keysHold ↔
      keysHold ((fields.map Prod.fst).map .str) ∧
        ∀ field ∈ fields, field.2.Every leafHolds keysHold := by
  rw [ofFields, Tree.every_obj_iff, List.map_map, List.map_map, List.forall_mem_map]
  rfl

theorem every_ofJson_iff {value : Json} :
    (ofJson value).Every leafHolds keysHold ↔
      value.Every leafHolds fun texts => keysHold (texts.map .str) := by
  induction value using Tree.inductionOn with
  | leaf value => rw [ofJson, Tree.every_leaf_iff, Tree.every_leaf_iff]
  | arr items induction =>
      rw [ofJson, ofItems_eq_map, Tree.every_arr_iff, Tree.every_arr_iff, List.forall_mem_map]
      exact forall₂_congr induction
  | obj members induction =>
      rw [ofJson, ofMembers_eq_map, Tree.every_obj_iff, Tree.every_obj_iff, List.map_map,
        List.map_map, List.forall_mem_map]
      exact and_congr_right fun _ => forall₂_congr induction

end Document

end BucketGuard
