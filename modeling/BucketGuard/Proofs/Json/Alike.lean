import BucketGuard.Proofs.Json.Tree
import BucketGuard.Proofs.Members
import Mathlib.Data.List.Forall2
import Mathlib.Data.List.Perm.Basic

namespace BucketGuard

/-! Values that differ in the order of members alone. Where every key of an object stands once, such
values are the same once they are ordered, so whatever is found under a key of one is found, up to
order, under the same key of the other. -/

/-! ## Sorting -/

namespace Members

section Order

variable {κ α : Type} {less : κ → κ → Bool}

/-- A strict order of all keys. -/
structure IsOrder (less : κ → κ → Bool) : Prop where
  asymm : ∀ {left right}, less left right = true → less right left = false
  trans : ∀ {first second third}, less first second = true → less second third = true →
    less first third = true
  total : ∀ {left right}, less left right = false → less right left = false → left = right

/-- No member has a smaller key than one before it. -/
def Sorted (less : κ → κ → Bool) (members : List (κ × α)) : Prop :=
  members.Pairwise fun earlier later => less later.1 earlier.1 = false

private theorem sorted_insertBy (isOrder : IsOrder less) {member : κ × α}
    {members : List (κ × α)} (sorted : Sorted less members) :
    Sorted less (insertBy less member members) := by
  induction members with
  | nil => exact List.pairwise_singleton _ _
  | cons other rest induction =>
      rcases List.pairwise_cons.mp sorted with ⟨first, others⟩
      rw [insertBy]
      split
      next goesBefore =>
        refine List.pairwise_cons.mpr ⟨fun later isLater => ?_, sorted⟩
        rcases List.mem_cons.mp isLater with rfl | isLater
        · exact isOrder.asymm goesBefore
        · cases below : less later.1 member.1 with
          | false => rfl
          | true => exact (isOrder.trans below goesBefore).symm.trans (first later isLater)
      next goesBehind =>
        refine List.pairwise_cons.mpr ⟨fun later isLater => ?_, induction others⟩
        rcases List.mem_cons.mp ((insertBy_perm less member rest).mem_iff.mp isLater) with
          rfl | isLater
        · exact Bool.eq_false_iff.mpr goesBehind
        · exact first later isLater

theorem sorted_sortBy (isOrder : IsOrder less) (members : List (κ × α)) :
    Sorted less (sortBy less members) := by
  have step : ∀ (members sorted : List (κ × α)), Sorted less sorted →
      Sorted less (members.foldl (fun sorted member => insertBy less member sorted) sorted) := by
    intro members
    induction members with
    | nil => exact fun _ sorted => sorted
    | cons member rest induction =>
        exact fun _ sorted => induction _ (sorted_insertBy isOrder sorted)
  exact step members [] List.Pairwise.nil

private theorem insertBy_eq_append {member : κ × α} {members : List (κ × α)}
    (last : ∀ other ∈ members, less member.1 other.1 = false) :
    insertBy less member members = members ++ [member] := by
  induction members with
  | nil => rfl
  | cons other rest induction =>
      rw [insertBy, last other (.head _), if_neg Bool.false_ne_true,
        induction fun later isLater => last later (.tail _ isLater), List.cons_append]

/-- Sorted members stay as they are. -/
theorem sortBy_of_sorted {members : List (κ × α)} (sorted : Sorted less members) :
    sortBy less members = members := by
  have step : ∀ (rest front : List (κ × α)), Sorted less (front ++ rest) →
      rest.foldl (fun sorted member => insertBy less member sorted) front = front ++ rest := by
    intro rest
    induction rest with
    | nil => exact fun front _ => (List.append_nil front).symm
    | cons member rest induction =>
        intro front sorted
        have last : ∀ other ∈ front, less member.1 other.1 = false := fun other isEarlier =>
          (List.pairwise_append.mp sorted).2.2 other isEarlier member (.head _)
        rw [List.foldl_cons, insertBy_eq_append last, induction _ (by simpa using sorted),
          List.append_assoc]
        rfl
  exact step members [] sorted

/-- Sorting does not depend on the order of the members, where every key stands once. -/
theorem sortBy_eq_of_perm [DecidableEq κ] (isOrder : IsOrder less) {left right : List (κ × α)}
    (perm : left.Perm right) (nodup : (left.map Prod.fst).Nodup) :
    sortBy less left = sortBy less right := by
  have perms : (sortBy less left).Perm (sortBy less right) :=
    (sortBy_perm less left).trans (perm.trans (sortBy_perm less right).symm)
  refine perms.eq_of_pairwise (fun first second isFirst isSecond notAbove notBelow => ?_)
    (sorted_sortBy isOrder left) (sorted_sortBy isOrder right)
  have keys : first.1 = second.1 := isOrder.total notBelow notAbove
  have isFirst := (sortBy_perm less left).mem_iff.mp isFirst
  have isSecond := perm.mem_iff.mpr ((sortBy_perm less right).mem_iff.mp isSecond)
  have found := (get?_eq_some_iff nodup).mpr isSecond
  rw [← keys, (get?_eq_some_iff nodup).mpr isFirst] at found
  exact Prod.ext keys (Option.some.inj found)

end Order

end Members

namespace Json

theorem isOrder_keyLess : Members.IsOrder keyLess where
  asymm below := decide_eq_false (String.lt_asymm (of_decide_eq_true below))
  trans first second :=
    decide_eq_true (String.lt_trans (of_decide_eq_true first) (of_decide_eq_true second))
  total notBelow notAbove :=
    String.le_antisymm (String.not_lt.mp (of_decide_eq_false notAbove))
      (String.not_lt.mp (of_decide_eq_false notBelow))

/-! ## Values of which every key stands once -/

mutual
/-- No object in the value has two members with one key. -/
def hasDistinctKeys : Json → Bool
  | .leaf _ => true
  | .arr items => haveDistinctKeys items
  | .obj members => decide (members.map Prod.fst).Nodup && valuesHaveDistinctKeys members

def haveDistinctKeys : List Json → Bool
  | [] => true
  | item :: rest => hasDistinctKeys item && haveDistinctKeys rest

def valuesHaveDistinctKeys : List (String × Json) → Bool
  | [] => true
  | (_, value) :: rest => hasDistinctKeys value && valuesHaveDistinctKeys rest
end

theorem hasDistinctKeys_arr_iff {items : List Json} :
    hasDistinctKeys (.arr items) = true ↔ ∀ item ∈ items, item.hasDistinctKeys = true := by
  rw [hasDistinctKeys]
  induction items with
  | nil => simp [haveDistinctKeys]
  | cons item rest induction =>
      rw [haveDistinctKeys, Bool.and_eq_true, induction, List.forall_mem_cons]

theorem hasDistinctKeys_obj_iff {members : List (String × Json)} :
    hasDistinctKeys (.obj members) = true ↔
      (members.map Prod.fst).Nodup ∧ ∀ member ∈ members, member.2.hasDistinctKeys = true := by
  have values : valuesHaveDistinctKeys members = true ↔
      ∀ member ∈ members, member.2.hasDistinctKeys = true := by
    induction members with
    | nil => simp [valuesHaveDistinctKeys]
    | cons member rest induction =>
        rw [valuesHaveDistinctKeys, Bool.and_eq_true, induction, List.forall_mem_cons]
  rw [hasDistinctKeys, Bool.and_eq_true, decide_eq_true_iff, values]

/-! ## Values that are alike -/

mutual
/-- The values differ in the order of members alone, at whatever depth. -/
def Alike : Json → Json → Prop
  | .leaf left, .leaf right => left = right
  | .arr left, .arr right => AlikeItems left right
  | .obj left, .obj right => ∃ middle, AlikeMembers left middle ∧ middle.Perm right
  | _, _ => False

def AlikeItems : List Json → List Json → Prop
  | [], [] => True
  | left :: lefts, right :: rights => Alike left right ∧ AlikeItems lefts rights
  | _, _ => False

def AlikeMembers : List (String × Json) → List (String × Json) → Prop
  | [], [] => True
  | (name, left) :: lefts, (other, right) :: rights =>
      name = other ∧ Alike left right ∧ AlikeMembers lefts rights
  | _, _ => False
end

theorem alikeMembers_refl {members : List (String × Json)}
    (same : ∀ member ∈ members, Alike member.2 member.2) : AlikeMembers members members := by
  induction members with
  | nil => trivial
  | cons member rest induction =>
      exact ⟨rfl, same member (.head _),
        induction fun later isLater => same later (.tail _ isLater)⟩

theorem Alike.refl (value : Json) : Alike value value := by
  induction value using Tree.inductionOn with
  | leaf value => rfl
  | arr items induction =>
      show AlikeItems items items
      induction items with
      | nil => trivial
      | cons item rest ofRest =>
          exact ⟨induction item (.head _), ofRest fun later member => induction later (.tail _ member)⟩
  | obj members induction => exact ⟨members, alikeMembers_refl induction, .refl _⟩

theorem Alike.obj {left right : List (String × Json)} (members : AlikeMembers left right) :
    Alike (.obj left) (.obj right) := ⟨right, members, .refl _⟩

/-- Objects with the same members are alike. -/
theorem Alike.of_perm {left right : List (String × Json)} (perm : left.Perm right) :
    Alike (.obj left) (.obj right) :=
  ⟨left, alikeMembers_refl fun member _ => Alike.refl member.2, perm⟩

private theorem ordered_eq_of_alikeItems {left right : List Json}
    (same : ∀ item ∈ left, ∀ other, Alike item other → item.ordered = other.ordered)
    (alike : AlikeItems left right) : left.map ordered = right.map ordered := by
  induction left generalizing right with
  | nil => cases right with
    | nil => rfl
    | cons other rest => exact alike.elim
  | cons item rest induction =>
      cases right with
      | nil => exact alike.elim
      | cons other others =>
          rw [List.map_cons, List.map_cons, same item (.head _) other alike.1,
            induction (fun item member => same item (.tail _ member)) alike.2]

private theorem ordered_eq_of_alikeMembers {left right : List (String × Json)}
    (same : ∀ member ∈ left, ∀ other, Alike member.2 other → member.2.ordered = other.ordered)
    (alike : AlikeMembers left right) : orderedMembers left = orderedMembers right := by
  induction left generalizing right with
  | nil => cases right with
    | nil => rfl
    | cons other rest => exact alike.elim
  | cons member rest induction =>
      cases right with
      | nil => exact alike.elim
      | cons other others =>
          rw [orderedMembers, orderedMembers, alike.1, same member (.head _) other.2 alike.2.1,
            induction (fun member isMember => same member (.tail _ isMember)) alike.2.2]

theorem keys_orderedMembers (members : List (String × Json)) :
    (orderedMembers members).map Prod.fst = members.map Prod.fst := by
  rw [orderedMembers_eq_map, List.map_map]
  rfl

/-- Values that are alike are one value once they are ordered. -/
theorem ordered_eq_of_alike {left right : Json} (distinct : left.hasDistinctKeys = true)
    (alike : Alike left right) : left.ordered = right.ordered := by
  induction left using Tree.inductionOn generalizing right with
  | leaf value => cases right with
    | leaf other => rw [show value = other from alike]
    | arr items => exact alike.elim
    | obj members => exact alike.elim
  | arr items induction => cases right with
    | leaf other => exact alike.elim
    | arr others =>
        rw [ordered, ordered, orderedItems_eq_map, orderedItems_eq_map,
          ordered_eq_of_alikeItems (fun item member other alike => induction item member
            (hasDistinctKeys_arr_iff.mp distinct item member) alike) alike]
    | obj members => exact alike.elim
  | obj members induction => cases right with
    | leaf other => exact alike.elim
    | arr items => exact alike.elim
    | obj others =>
        rcases alike with ⟨middle, alike, perm⟩
        rcases hasDistinctKeys_obj_iff.mp distinct with ⟨nodup, values⟩
        have same := ordered_eq_of_alikeMembers (fun member isMember other alike =>
          induction member isMember (values member isMember) alike) alike
        have perm : (orderedMembers middle).Perm (orderedMembers others) := by
          rw [orderedMembers_eq_map, orderedMembers_eq_map]
          exact perm.map _
        rw [ordered, ordered, same]
        refine congrArg Tree.obj (Members.sortBy_eq_of_perm isOrder_keyLess perm ?_)
        rwa [← same, keys_orderedMembers]

private theorem alikeItems_of_ordered_eq {left right : List Json}
    (alike : ∀ item ∈ left, ∀ other, item.ordered = other.ordered → Alike item other)
    (same : left.map ordered = right.map ordered) : AlikeItems left right := by
  induction left generalizing right with
  | nil => cases right with
    | nil => trivial
    | cons other rest => contradiction
  | cons item rest induction =>
      cases right with
      | nil => contradiction
      | cons other others =>
          rcases List.cons.inj same with ⟨first, later⟩
          exact ⟨alike item (.head _) other first,
            induction (fun item member => alike item (.tail _ member)) later⟩

private theorem alikeMembers_of_ordered_eq {left right : List (String × Json)}
    (alike : ∀ member ∈ left, ∀ other, member.2.ordered = other.ordered → Alike member.2 other)
    (same : orderedMembers left = orderedMembers right) : AlikeMembers left right := by
  induction left generalizing right with
  | nil => cases right with
    | nil => trivial
    | cons other rest => contradiction
  | cons member rest induction =>
      cases right with
      | nil => contradiction
      | cons other others =>
          rcases List.cons.inj same with ⟨first, later⟩
          rcases Prod.mk.inj first with ⟨keys, values⟩
          exact ⟨keys, alike member (.head _) other.2 values,
            induction (fun member isMember => alike member (.tail _ isMember)) later⟩

/-- Values that are one value once they are ordered are alike. -/
theorem alike_of_ordered_eq {left right : Json} (same : left.ordered = right.ordered) :
    Alike left right := by
  induction left using Tree.inductionOn generalizing right with
  | leaf value => cases right with
    | leaf other => exact Tree.leaf.inj same
    | arr items => contradiction
    | obj members => contradiction
  | arr items induction => cases right with
    | leaf other => contradiction
    | arr others =>
        refine alikeItems_of_ordered_eq (fun item member _ => induction item member) ?_
        simpa [ordered, orderedItems_eq_map] using same
    | obj members => contradiction
  | obj members induction => cases right with
    | leaf other => contradiction
    | arr items => contradiction
    | obj others =>
        have perm : (orderedMembers members).Perm (orderedMembers others) :=
          (Members.sortBy_perm keyLess _).symm.trans
            (Tree.obj.inj same ▸ Members.sortBy_perm keyLess (orderedMembers others))
        rw [orderedMembers_eq_map others] at perm
        -- What the members of the other object are ordered to is what some order of them is.
        rcases (congrFun (congrFun (List.eq_map_comp_perm _) _) _).mpr perm with
          ⟨middle, isMiddle, ofOthers⟩
        refine ⟨middle, alikeMembers_of_ordered_eq (fun member isMember _ =>
          induction member isMember) ?_, ofOthers⟩
        rw [isMiddle, orderedMembers_eq_map]

/-- Ordering a value again changes nothing. -/
@[simp] theorem ordered_ordered (value : Json) : value.ordered.ordered = value.ordered := by
  induction value using Tree.inductionOn with
  | leaf value => rfl
  | arr items induction =>
      rw [ordered, ordered, orderedItems_eq_map, orderedItems_eq_map, List.map_map]
      exact congrArg Tree.arr (List.map_congr_left induction)
  | obj members induction =>
      have sorted := Members.sorted_sortBy isOrder_keyLess (orderedMembers members)
      have values : orderedMembers (Members.sortBy keyLess (orderedMembers members)) =
          Members.sortBy keyLess (orderedMembers members) := by
        rw [orderedMembers_eq_map]
        refine (List.map_congr_left fun member isMember => ?_).trans (List.map_id _)
        have isMember := (Members.sortBy_perm keyLess _).mem_iff.mp isMember
        rw [orderedMembers_eq_map] at isMember
        rcases List.mem_map.mp isMember with ⟨original, isOriginal, rfl⟩
        exact congrArg (Prod.mk original.1) (induction original isOriginal)
      rw [ordered, ordered, values, Members.sortBy_of_sorted sorted]

/-! ## Values that agree -/

theorem hasDistinctKeys_ordered (value : Json) :
    value.ordered.hasDistinctKeys = value.hasDistinctKeys := by
  rw [Bool.eq_iff_iff]
  induction value using Tree.inductionOn with
  | leaf value => rfl
  | arr items induction =>
      rw [ordered, orderedItems_eq_map, hasDistinctKeys_arr_iff, hasDistinctKeys_arr_iff,
        List.forall_mem_map]
      exact forall₂_congr induction
  | obj members induction =>
      have perm := Members.sortBy_perm keyLess (orderedMembers members)
      rw [ordered, hasDistinctKeys_obj_iff, hasDistinctKeys_obj_iff,
        (perm.map Prod.fst).nodup_iff, keys_orderedMembers]
      refine and_congr_right fun _ => ?_
      rw [orderedMembers_eq_map] at perm ⊢
      simp only [perm.mem_iff]
      rw [List.forall_mem_map]
      exact forall₂_congr induction

/-- The values have distinct keys and are one once they are ordered. -/
structure Agree (left right : Json) : Prop where
  distinct : left.hasDistinctKeys = true
  same : left.ordered = right.ordered

namespace Agree

variable {left right : Json}

theorem distinct_right (agree : Agree left right) : right.hasDistinctKeys = true := by
  rw [← hasDistinctKeys_ordered, ← agree.same, hasDistinctKeys_ordered]
  exact agree.distinct

theorem leaf (value : Scalar) : Agree (.leaf value) (.leaf value) := ⟨rfl, rfl⟩

private theorem forall₂_of_map_ordered {lefts rights : List Json}
    (distinct : ∀ item ∈ lefts, item.hasDistinctKeys = true)
    (same : lefts.map ordered = rights.map ordered) : List.Forall₂ Agree lefts rights := by
  induction lefts generalizing rights with
  | nil =>
      cases rights with
      | nil => exact .nil
      | cons other others => contradiction
  | cons item rest induction =>
      cases rights with
      | nil => contradiction
      | cons other others =>
          rcases List.cons.inj same with ⟨first, rest⟩
          exact .cons ⟨distinct item (.head _), first⟩
            (induction (fun later member => distinct later (.tail _ member)) rest)

/-- Two values that agree are one leaf, or lists whose items agree, or objects. -/
theorem cases (agree : Agree left right) :
    (∃ value, left = .leaf value ∧ right = .leaf value) ∨
      (∃ lefts rights, left = .arr lefts ∧ right = .arr rights ∧
        List.Forall₂ Agree lefts rights) ∨
      ∃ lefts rights, left = .obj lefts ∧ right = .obj rights := by
  rcases agree with ⟨distinct, same⟩
  cases left with
  | leaf value => cases right with
    | leaf other => exact .inl ⟨value, rfl, congrArg Tree.leaf (Tree.leaf.inj same).symm⟩
    | arr items => exact nomatch same
    | obj members => exact nomatch same
  | arr lefts => cases right with
    | leaf other => exact nomatch same
    | arr rights =>
        refine .inr (.inl ⟨lefts, rights, rfl, rfl, ?_⟩)
        exact forall₂_of_map_ordered (hasDistinctKeys_arr_iff.mp distinct) (by
          simpa [ordered, orderedItems_eq_map] using same)
    | obj members => exact nomatch same
  | obj lefts => cases right with
    | leaf other => exact nomatch same
    | arr items => exact nomatch same
    | obj rights => exact .inr (.inr ⟨lefts, rights, rfl, rfl⟩)

end Agree

/-- Under every key the members of objects that agree hold values that agree. -/
theorem Agree.get? {left right : List (String × Json)} (agree : Agree (.obj left) (.obj right))
    (key : String) :
    (Members.get? left key = none ∧ Members.get? right key = none) ∨
      ∃ value other, Members.get? left key = some value ∧ Members.get? right key = some other ∧
        Agree value other := by
  rcases hasDistinctKeys_obj_iff.mp agree.distinct with ⟨nodup, values⟩
  have otherNodup := (hasDistinctKeys_obj_iff.mp agree.distinct_right).1
  have found : Members.get? (Members.sortBy keyLess (orderedMembers left)) key =
      Members.get? (Members.sortBy keyLess (orderedMembers right)) key := by
    rw [Tree.obj.inj agree.same]
  rw [Members.get?_sortBy keyLess (by rwa [keys_orderedMembers]),
    Members.get?_sortBy keyLess (by rwa [keys_orderedMembers]), orderedMembers_eq_map,
    orderedMembers_eq_map, Members.get?_map, Members.get?_map] at found
  cases isLeft : Members.get? left key with
  | none =>
      rw [isLeft, Option.map_none, eq_comm, Option.map_eq_none_iff] at found
      exact .inl ⟨rfl, found⟩
  | some value =>
      rw [isLeft, Option.map_some, eq_comm, Option.map_eq_some_iff] at found
      rcases found with ⟨other, isRight, same⟩
      have member := (Members.get?_eq_some_iff nodup).mp isLeft
      exact .inr ⟨value, other, rfl, isRight, values _ member, same.symm⟩

theorem Agree.field {left right : List (String × Json)} (agree : Agree (.obj left) (.obj right))
    (key : String) : Agree (Json.field left key) (Json.field right key) := by
  rw [Json.field, Json.field]
  rcases agree.get? key with ⟨isLeft, isRight⟩ | ⟨value, other, isLeft, isRight, agree⟩
  · rw [isLeft, isRight]
    exact Agree.leaf .null
  · rwa [isLeft, isRight]

end Json

end BucketGuard
