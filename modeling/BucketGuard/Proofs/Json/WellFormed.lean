import BucketGuard.Proofs.Json.Alike
import BucketGuard.Proofs.Json.Number
import BucketGuard.Proofs.Outcome

namespace BucketGuard

/-! Values as reading gives them: in every object each key stands once, and every float is in the one
form that the format has for it. Whatever a text holds, what is read from it is so. -/

namespace Members

variable {κ α : Type} [DecidableEq κ]

theorem put_eq_append {members : List (κ × α)} {key : κ} (fresh : key ∉ members.map Prod.fst)
    (value : α) : put members key value = members ++ [(key, value)] := by
  induction members with
  | nil => rfl
  | cons member rest induction =>
      rcases member with ⟨other, present⟩
      rw [List.map_cons, List.mem_cons, not_or] at fresh
      rw [put, if_neg (Ne.symm fresh.1), induction fresh.2, List.cons_append]

theorem mem_put {members : List (κ × α)} {key : κ} {value : α} {member : κ × α}
    (isMember : member ∈ put members key value) :
    member.2 = value ∨ member ∈ members := by
  induction members with
  | nil => exact .inl (congrArg Prod.snd (List.mem_singleton.mp isMember))
  | cons first rest induction =>
      rcases first with ⟨other, present⟩
      rw [put] at isMember
      split at isMember
      · rcases List.mem_cons.mp isMember with rfl | later
        · exact .inl rfl
        · exact .inr (.tail _ later)
      · rcases List.mem_cons.mp isMember with rfl | later
        · exact .inr (.head _)
        · exact (induction later).imp_right (.tail _)

theorem keys_put (members : List (κ × α)) (key : κ) (value : α) :
    (put members key value).map Prod.fst =
      if key ∈ members.map Prod.fst then members.map Prod.fst
      else members.map Prod.fst ++ [key] := by
  induction members with
  | nil => rfl
  | cons first rest induction =>
      rcases first with ⟨other, present⟩
      by_cases same : other = key
      · simp [put, same]
      · rw [put, if_neg same, List.map_cons, induction]
        simp only [List.map_cons, List.mem_cons, Ne.symm same, false_or]
        split <;> rfl

theorem nodup_put {members : List (κ × α)} (nodup : (members.map Prod.fst).Nodup) (key : κ)
    (value : α) : ((put members key value).map Prod.fst).Nodup := by
  rw [keys_put]
  split
  · exact nodup
  · rename_i fresh
    rw [List.nodup_append]
    exact ⟨nodup, List.nodup_singleton key, fun other isOther last isLast same =>
      fresh (by rwa [← List.mem_singleton.mp isLast, ← same])⟩

end Members

namespace Json

abbrev WellFormed (value : Json) : Prop := value.Every Scalar.InForm List.Nodup

@[simp] theorem wellFormed_str (text : String) : WellFormed (.str text) := .leaf trivial

theorem wellFormed_obj_nil : WellFormed (.obj []) :=
  Tree.every_obj_iff.mpr ⟨List.nodup_nil, fun _ member => nomatch member⟩

theorem WellFormed.ordered {value : Json} (wellFormed : value.WellFormed) :
    value.ordered.WellFormed := by
  induction wellFormed with
  | leaf inForm => exact .leaf inForm
  | arr ofItems induction =>
      rw [Json.ordered, orderedItems_eq_map]
      exact .arr (List.forall_mem_map.mpr induction)
  | @obj members nodup ofValues induction =>
      have perm := Members.sortBy_perm keyLess (orderedMembers members)
      rw [Json.ordered]
      refine .obj ?_ fun member isMember => ?_
      · rwa [(perm.map Prod.fst).nodup_iff, keys_orderedMembers]
      have isMember := perm.mem_iff.mp isMember
      rw [orderedMembers_eq_map] at isMember
      rcases List.mem_map.mp isMember with ⟨original, isOriginal, rfl⟩
      exact induction original isOriginal

theorem WellFormed.hasDistinctKeys {value : Json} (wellFormed : value.WellFormed) :
    value.hasDistinctKeys = true := by
  induction wellFormed with
  | leaf _ => rfl
  | arr _ induction => exact hasDistinctKeys_arr_iff.mpr induction
  | obj nodup _ induction => exact hasDistinctKeys_obj_iff.mpr ⟨nodup, induction⟩

theorem wellFormed_put {members : List (String × Json)} {value : Json}
    (wellFormed : WellFormed (.obj members)) (ofValue : value.WellFormed) (key : String) :
    WellFormed (.obj (Members.put members key value)) := by
  rcases Tree.every_obj_iff.mp wellFormed with ⟨nodup, ofValues⟩
  refine .obj (Members.nodup_put nodup key value) fun member isMember => ?_
  rcases Members.mem_put isMember with same | isPresent
  · exact same ▸ ofValue
  · exact ofValues member isPresent

theorem wellFormed_putAll {members additions : List (String × Json)}
    (wellFormed : WellFormed (.obj members))
    (ofValues : ∀ addition ∈ additions, addition.2.WellFormed) :
    WellFormed (.obj (Members.putAll members additions)) := by
  induction additions generalizing members with
  | nil => exact wellFormed
  | cons addition rest induction =>
      rcases List.forall_mem_cons.mp ofValues with ⟨ofValue, ofRest⟩
      exact induction (wellFormed_put wellFormed ofValue addition.1) ofRest

/-! ## Reading -/

private theorem inForm_of_readNumber? {negative : Bool} {text : List Char} {value : Scalar}
    {rest : List Char} (reading : readNumber? negative text = some (value, rest)) :
    value.InForm := by
  rcases Option.bind_eq_some_iff.mp reading with ⟨⟨whole, afterWhole⟩, -, reading⟩
  dsimp only at reading
  split at reading
  · cases reading
    trivial
  · cases reading
    exact Binary64.ofDecimal_inForm ..

private theorem inForm_of_readScalar? {text : List Char} {value : Scalar} {rest : List Char}
    (reading : readScalar? text = some (value, rest)) : value.InForm := by
  unfold readScalar? at reading
  split at reading
  · rename_i literal
    unfold readLiteral? at literal
    split at literal <;> cases literal <;> cases reading <;> trivial
  · split at reading <;> exact inForm_of_readNumber? reading

/-- What the three reading functions give with some fuel. -/
private structure ReadWellFormed (fuel : Nat) : Prop where
  value : ∀ {limits text value rest}, readValue limits fuel text = .ok (value, rest) →
    value.WellFormed
  items : ∀ {limits text items rest}, readItems limits fuel text = .ok (items, rest) →
    ∀ item ∈ items, item.WellFormed
  members : ∀ {limits present text members rest}, WellFormed (.obj present) →
    readMembers limits fuel present text = .ok (members, rest) → WellFormed (.obj members)

private theorem readValue_wellFormed {fuel : Nat} (inner : ReadWellFormed fuel)
    {limits : ReadLimits} {text rest : List Char} {value : Json}
    (reading : readValue limits (fuel + 1) text = .ok (value, rest)) : value.WellFormed := by
  rw [readValue.eq_def] at reading
  dsimp only at reading
  split at reading
  · rcases Except.map_eq_ok_iff.mp reading with ⟨_, -, equal⟩
    cases equal
    exact wellFormed_str _
  · split at reading
    · contradiction
    split at reading
    · cases reading
      exact wellFormed_obj_nil
    · rcases Except.map_eq_ok_iff.mp reading with ⟨_, areMembers, equal⟩
      cases equal
      exact inner.members wellFormed_obj_nil areMembers
  · split at reading
    · contradiction
    split at reading
    · cases reading
      exact .arr fun _ member => nomatch member
    · rcases Except.map_eq_ok_iff.mp reading with ⟨_, areItems, equal⟩
      cases equal
      exact .arr (inner.items areItems)
  · split at reading
    · rename_i scalar
      split at reading
      · contradiction
      · cases reading
        exact .leaf (inForm_of_readScalar? scalar)
    · contradiction

private theorem readItems_wellFormed {fuel : Nat} (inner : ReadWellFormed fuel)
    {limits : ReadLimits} {text rest : List Char} {items : List Json}
    (reading : readItems limits (fuel + 1) text = .ok (items, rest)) :
    ∀ item ∈ items, item.WellFormed := by
  rw [readItems, Except.bind_eq_ok_iff] at reading
  rcases reading with ⟨⟨item, afterItem⟩, isItem, reading⟩
  dsimp only at reading
  split at reading
  · cases reading
    exact List.forall_mem_singleton.mpr (inner.value isItem)
  · rcases Except.bind_eq_ok_iff.mp reading with ⟨⟨others, remaining⟩, areOthers, equal⟩
    cases equal
    exact List.forall_mem_cons.mpr ⟨inner.value isItem, inner.items areOthers⟩
  · contradiction

private theorem readMembers_wellFormed {fuel : Nat} (inner : ReadWellFormed fuel)
    {limits : ReadLimits} {present members : List (String × Json)} {text rest : List Char}
    (wellFormed : WellFormed (.obj present))
    (reading : readMembers limits (fuel + 1) present text = .ok (members, rest)) :
    WellFormed (.obj members) := by
  rw [readMembers.eq_def] at reading
  dsimp only at reading
  split at reading
  · rcases Except.bind_eq_ok_iff.mp reading with ⟨⟨key, afterKey⟩, -, reading⟩
    dsimp only at reading
    split at reading
    · rcases Except.bind_eq_ok_iff.mp reading with ⟨⟨value, afterValue⟩, isValue, reading⟩
      have extended := wellFormed_put wellFormed (inner.value isValue) key
      dsimp only at reading
      split at reading
      · cases reading
        exact extended
      · exact inner.members extended reading
      · contradiction
    · contradiction
  · contradiction

private theorem readWellFormed (fuel : Nat) : ReadWellFormed fuel := by
  induction fuel with
  | zero => exact ⟨nofun, nofun, nofun⟩
  | succ fuel induction =>
      exact
        { value := readValue_wellFormed induction
          items := readItems_wellFormed induction
          members := readMembers_wellFormed induction }

/-- What is read from a text is well formed, within whatever limits it is read. -/
theorem wellFormed_of_readWithin {limits : ReadLimits} {text : List Char} {value : Json}
    (reading : readWithin limits text = .ok value) : value.WellFormed := by
  unfold readWithin at reading
  split at reading
  · contradiction
  · rcases Except.bind_eq_ok_iff.mp reading with ⟨⟨result, rest⟩, isValue, reading⟩
    dsimp only at reading
    split at reading
    · cases reading
      exact (readWellFormed _).value isValue
    · contradiction

end Json

end BucketGuard
