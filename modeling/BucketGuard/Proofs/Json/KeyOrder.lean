import BucketGuard.Proofs.Json.Canonical

namespace BucketGuard

/-! Which documents have a text. The keys of an object must be of one family, since keys of
different families have no order. Equality of keys is an equivalence, and equal keys are of one
family. -/

/-! ## Numbers by value -/

namespace Magnitude

/-- A fraction whose denominator is a denominator. -/
def IsProper : Magnitude → Prop
  | .exact _ denominator => 0 < denominator
  | _ => True

theorem same_symm {left right : Magnitude} (same : left.same right) : right.same left := by
  cases left <;> cases right <;> simp_all [Magnitude.same]

theorem same_trans {first second third : Magnitude} (proper : second.IsProper)
    (left : first.same second) (right : second.same third) : first.same third := by
  cases first with
  | below => cases second <;> simp_all [Magnitude.same]
  | above => cases second <;> simp_all [Magnitude.same]
  | exact numerator denominator =>
      cases second with
      | below => simp [Magnitude.same] at left
      | above => simp [Magnitude.same] at left
      | exact middle middleScale =>
          cases third with
          | below => simp [Magnitude.same] at right
          | above => simp [Magnitude.same] at right
          | exact last lastScale =>
              simp only [Magnitude.same, decide_eq_true_eq] at left right ⊢
              have positive : (middleScale : Int) ≠ 0 := by
                simp only [IsProper] at proper
                omega
              apply Int.eq_of_mul_eq_mul_right positive
              calc numerator * lastScale * middleScale
                  = numerator * middleScale * lastScale := by rw [Int.mul_right_comm]
                _ = middle * denominator * lastScale := by rw [left]
                _ = middle * lastScale * denominator := by rw [Int.mul_right_comm]
                _ = last * middleScale * denominator := by rw [right]
                _ = last * denominator * middleScale := by rw [Int.mul_right_comm]

end Magnitude

namespace Scalar

theorem magnitude?_isProper {key : Scalar} {magnitude : Magnitude}
    (number : key.magnitude? = some magnitude) : magnitude.IsProper := by
  cases key with
  | null => contradiction
  | str text => contradiction
  | bool value => cases number; exact Nat.one_pos
  | int value => cases number; exact Nat.one_pos
  | float value =>
      cases value with
      | nan => contradiction
      | infinite negative => cases negative <;> cases number <;> trivial
      | finite negative significand exponent => cases number; exact Nat.two_pow_pos _

/-! ## Equality of keys -/

theorem sameKey_iff {left right : Scalar} :
    left.sameKey right ↔
      left = right ∨ ∃ first second, left.magnitude? = some first ∧
        right.magnitude? = some second ∧ first.same second := by
  unfold sameKey
  cases left.magnitude? <;> cases right.magnitude? <;> simp

@[simp] theorem sameKey_refl (key : Scalar) : key.sameKey key := sameKey_iff.mpr (.inl rfl)

theorem sameKey_symm {left right : Scalar} (same : left.sameKey right) : right.sameKey left := by
  rcases sameKey_iff.mp same with rfl | ⟨first, second, isLeft, isRight, same⟩
  · exact sameKey_refl left
  · exact sameKey_iff.mpr (.inr ⟨second, first, isRight, isLeft, Magnitude.same_symm same⟩)

theorem sameKey_trans {first second third : Scalar} (left : first.sameKey second)
    (right : second.sameKey third) : first.sameKey third := by
  rcases sameKey_iff.mp left with rfl | ⟨one, two, isOne, isTwo, same⟩
  · exact right
  rcases sameKey_iff.mp right with rfl | ⟨again, three, isAgain, isThree, others⟩
  · exact left
  rw [isTwo, Option.some.injEq] at isAgain
  subst again
  exact sameKey_iff.mpr (.inr ⟨one, three, isOne, isThree,
    Magnitude.same_trans (magnitude?_isProper isTwo) same others⟩)

/-! ## Families -/

/-- Keys are of one family if there can be an order between them. -/
inductive Family where
  | null
  | number
  | text
  deriving DecidableEq

def family : Scalar → Family
  | .null => .null
  | .str _ => .text
  | _ => .number

theorem family_eq_of_sameKey {left right : Scalar} (same : left.sameKey right) :
    left.family = right.family := by
  rcases sameKey_iff.mp same with rfl | ⟨first, second, isLeft, isRight, -⟩
  · rfl
  · have number {key : Scalar} {magnitude : Magnitude}
        (isNumber : key.magnitude? = some magnitude) : key.family = .number := by
      cases key <;> first | rfl | contradiction
    rw [number isLeft, number isRight]

/-- Two keys can be compared if they are of one family, unless there is nothing to compare. -/
theorem comparable_iff {left right : Scalar} :
    left.comparable right ↔ left.family = right.family ∧ left.family ≠ .null := by
  cases left <;> cases right <;> simp [comparable, isNumber, family]

/-- The keys are all of one family. -/
def OfOneFamily (keys : List Scalar) : Prop :=
  ∀ left ∈ keys, ∀ right ∈ keys, left.family = right.family

/-- No two of the keys are equal. -/
def Distinct (keys : List Scalar) : Prop :=
  keys.Pairwise fun left right => left.sameKey right = false

end Scalar

namespace Document

/-- Distinct keys have an order if they are of one family, and only then. -/
theorem orderFault?_eq_none_iff {keys : List Scalar} (distinct : Scalar.Distinct keys) :
    orderFault? keys = none ↔ Scalar.OfOneFamily keys := by
  induction keys with
  | nil => simp [orderFault?, Scalar.OfOneFamily]
  | cons first rest induction =>
      cases rest with
      | nil => simp [orderFault?, Scalar.OfOneFamily]
      | cons second rest =>
          rw [Scalar.Distinct, List.pairwise_cons] at distinct
          have others := induction distinct.2
          rw [orderFault?]
          constructor
          · intro ordered
            split at ordered
            · rename_i comparable
              have same := (Scalar.comparable_iff.mp comparable).1
              have ofRest := others.mp ordered
              have toSecond : ∀ key ∈ first :: second :: rest, key.family = second.family := by
                intro key member
                rcases List.mem_cons.mp member with rfl | later
                · exact same.symm
                · exact ofRest key later second (List.mem_cons_self ..)
              intro left leftMember right rightMember
              exact (toSecond left leftMember).trans (toSecond right rightMember).symm
            · contradiction
          · intro ofOneFamily
            have same := ofOneFamily second (.tail _ (.head _)) first (.head _)
            -- Two nulls cannot be compared, but distinct keys hold no more than one.
            have comparable : second.comparable first := by
              refine Scalar.comparable_iff.mpr ⟨same, fun isNull => ?_⟩
              have different := distinct.1 second (.head _)
              have isFirstNull := same.symm.trans isNull
              cases first <;> cases second <;>
                simp_all [Scalar.family, Scalar.sameKey]
            rw [if_pos comparable]
            exact others.mpr fun left leftMember right rightMember =>
              ofOneFamily left (.tail _ leftMember) right (.tail _ rightMember)

/-! ## Documents with a text -/

/-- The document can be written. -/
def HasText (document : Document) : Prop := ∃ value, document.ordered = .ok value

theorem hasText_leaf (value : Scalar) : HasText (.leaf value) := ⟨_, rfl⟩

theorem hasText_ofJson (value : Json) : HasText (ofJson value) := ⟨_, ordered_ofJson value⟩

private theorem orderedItems_ok_iff {items : List Document} :
    (∃ values, orderedItems items = .ok values) ↔ ∀ item ∈ items, HasText item := by
  induction items with
  | nil => simp [orderedItems]
  | cons item rest induction =>
      rw [List.forall_mem_cons, ← induction, orderedItems]
      exact Except.exists_both_iff

private theorem orderedMembers_ok_iff {members : List (Scalar × Document)} :
    (∃ values, orderedMembers members = .ok values) ↔ ∀ member ∈ members, HasText member.2 := by
  induction members with
  | nil => simp [orderedMembers]
  | cons member rest induction =>
      rw [List.forall_mem_cons, ← induction, orderedMembers]
      exact Except.exists_both_iff

theorem hasText_arr_iff {items : List Document} :
    HasText (.arr items) ↔ ∀ item ∈ items, HasText item := by
  rw [← orderedItems_ok_iff, HasText, ordered]
  cases orderedItems items <;> simp [bind, Except.bind, pure, Except.pure]

theorem hasText_obj_iff {members : List (Scalar × Document)} :
    HasText (.obj members) ↔
      orderFault? (members.map Prod.fst) = none ∧ ∀ member ∈ members, HasText member.2 := by
  rw [← orderedMembers_ok_iff, HasText, ordered]
  cases orderFault? (members.map Prod.fst) with
  | some fault => simp [bind, Except.bind]
  | none => cases orderedMembers members <;> simp [bind, Except.bind, pure, Except.pure]

/-- The document of members whose keys and values are made into those of a document. -/
theorem hasText_obj_map_iff {κ α : Type} (rename : κ → Scalar) (change : α → Document)
    (members : List (κ × α)) :
    HasText (.obj (members.map fun (key, value) => (rename key, change value))) ↔
      orderFault? ((members.map Prod.fst).map rename) = none ∧
        ∀ member ∈ members, HasText (change member.2) := by
  rw [hasText_obj_iff, List.map_map, List.map_map, List.forall_mem_map]
  rfl

theorem hasText_ofFields_iff {fields : List (String × Document)} :
    HasText (ofFields fields) ↔ ∀ field ∈ fields, HasText field.2 := by
  refine (hasText_obj_map_iff .str id fields).trans ?_
  rw [orderFault?_str]
  exact and_iff_right rfl

/-- Grouped values, which have scalars for keys already. -/
theorem hasText_groups_iff {α : Type} (change : α → Document) (groups : List (Scalar × α)) :
    HasText (.obj (groups.map fun (key, value) => (key, change value))) ↔
      orderFault? (groups.map Prod.fst) = none ∧ ∀ group ∈ groups, HasText (change group.2) := by
  refine (hasText_obj_map_iff id change groups).trans ?_
  rw [List.map_id]

end Document

end BucketGuard
