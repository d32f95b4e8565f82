import BucketGuard.Json.KeyOrder

namespace BucketGuard

/-! Induction over documents: what holds of an array follows from its items, and what holds of an
object from its keys and the values of its members. The functions that go through a document item by
item are maps over its lists. -/

namespace Tree

@[elab_as_elim]
theorem inductionOn {κ : Type} {motive : Tree κ → Prop}
    (leaf : ∀ value, motive (.leaf value))
    (arr : ∀ items, (∀ item ∈ items, motive item) → motive (.arr items))
    (obj : ∀ members : List (κ × Tree κ),
      (∀ member ∈ members, motive member.2) → motive (.obj members))
    (tree : Tree κ) : motive tree := by
  refine @Tree.rec κ motive (fun items => ∀ item ∈ items, motive item)
    (fun members => ∀ member ∈ members, motive member.2) (fun member => motive member.2)
    leaf arr obj ?_ ?_ ?_ ?_ ?_ tree
  · intro item member
    cases member
  · intro first rest ofFirst ofRest item member
    rcases List.mem_cons.mp member with rfl | later
    · exact ofFirst
    · exact ofRest item later
  · intro member isMember
    cases isMember
  · intro first rest ofFirst ofRest member isMember
    rcases List.mem_cons.mp isMember with rfl | later
    · exact ofFirst
    · exact ofRest member later
  · intro key value ofValue
    exact ofValue

/-- Each leaf of a tree has one property, and the keys of each object another. -/
inductive Every {κ : Type} (leafHolds : Scalar → Prop) (keysHold : List κ → Prop) : Tree κ → Prop
  | leaf {value : Scalar} (holds : leafHolds value) : Every leafHolds keysHold (.leaf value)
  | arr {items : List (Tree κ)} (ofItems : ∀ item ∈ items, Every leafHolds keysHold item) :
      Every leafHolds keysHold (.arr items)
  | obj {members : List (κ × Tree κ)} (ofKeys : keysHold (members.map Prod.fst))
      (ofValues : ∀ member ∈ members, Every leafHolds keysHold member.2) :
      Every leafHolds keysHold (.obj members)

section Every

variable {κ : Type} {leafHolds : Scalar → Prop} {keysHold : List κ → Prop}

theorem every_leaf_iff {value : Scalar} :
    Every leafHolds keysHold (.leaf value) ↔ leafHolds value :=
  ⟨fun every => by cases every; assumption, .leaf⟩

theorem every_arr_iff {items : List (Tree κ)} :
    Every leafHolds keysHold (.arr items) ↔ ∀ item ∈ items, item.Every leafHolds keysHold :=
  ⟨fun every => by cases every; assumption, .arr⟩

theorem every_obj_iff {members : List (κ × Tree κ)} :
    Every leafHolds keysHold (.obj members) ↔
      keysHold (members.map Prod.fst) ∧
        ∀ member ∈ members, member.2.Every leafHolds keysHold :=
  ⟨fun every => by cases every; constructor <;> assumption,
    fun ⟨ofKeys, ofValues⟩ => .obj ofKeys ofValues⟩

theorem every_of_forall (leaves : ∀ value, leafHolds value) (keys : ∀ keys, keysHold keys)
    (tree : Tree κ) : tree.Every leafHolds keysHold := by
  induction tree using inductionOn with
  | leaf value => exact .leaf (leaves value)
  | arr items induction => exact .arr induction
  | obj members induction => exact .obj (keys _) induction

/-- What follows from two properties at every place follows of the tree. -/
theorem Every.imp₂ {leafHolds' leafHolds'' : Scalar → Prop} {keysHold' keysHold'' : List κ → Prop}
    {tree : Tree κ} (first : tree.Every leafHolds keysHold)
    (second : tree.Every leafHolds' keysHold')
    (leaves : ∀ value, leafHolds value → leafHolds' value → leafHolds'' value)
    (keys : ∀ keys, keysHold keys → keysHold' keys → keysHold'' keys) :
    tree.Every leafHolds'' keysHold'' := by
  induction first with
  | leaf holds => exact .leaf (leaves _ holds (every_leaf_iff.mp second))
  | arr ofItems induction =>
      exact .arr fun item member => induction item member (every_arr_iff.mp second item member)
  | obj ofKeys ofValues induction =>
      rcases every_obj_iff.mp second with ⟨otherKeys, otherValues⟩
      exact .obj (keys _ ofKeys otherKeys) fun member isMember =>
        induction member isMember (otherValues member isMember)

end Every

end Tree

namespace Json

theorem orderedItems_eq_map (items : List Json) : orderedItems items = items.map ordered := by
  induction items with
  | nil => rfl
  | cons item rest induction => rw [orderedItems, induction, List.map_cons]

theorem orderedMembers_eq_map (members : List (String × Json)) :
    orderedMembers members = members.map fun (key, value) => (key, ordered value) := by
  induction members with
  | nil => rfl
  | cons member rest induction => rw [orderedMembers, induction, List.map_cons]

end Json

namespace Document

theorem ofItems_eq_map (items : List Json) : ofItems items = items.map ofJson := by
  induction items with
  | nil => rfl
  | cons item rest induction => rw [ofItems, induction, List.map_cons]

theorem ofMembers_eq_map (members : List (String × Json)) :
    ofMembers members = members.map fun (key, value) => (.str key, ofJson value) := by
  induction members with
  | nil => rfl
  | cons member rest induction => rw [ofMembers, induction, List.map_cons]

end Document

end BucketGuard
