import BucketGuard.Json.KeyOrder

namespace BucketGuard

/-! Members by key: what is found after a member is put, and that sorting neither adds nor loses
members, so it changes no look-up where every key stands once. -/

namespace Members

section LookUp

variable {κ α : Type} [DecidableEq κ]

theorem get?_put (members : List (κ × α)) (key other : κ) (value : α) :
    get? (put members key value) other =
      if key = other then some value else get? members other := by
  induction members with
  | nil => simp [put, get?]
  | cons member rest induction =>
      rcases member with ⟨name, old⟩
      by_cases present : name = key
      · subst name
        by_cases same : key = other <;> simp [put, get?, same]
      · rw [put, if_neg present, get?, get?]
        by_cases found : name = other
        · have different : key ≠ other := fun equal => present (found.trans equal.symm)
          rw [if_pos found, if_pos found, if_neg different]
        · rw [if_neg found, if_neg found, induction]

theorem get?_eq_none_iff {members : List (κ × α)} {key : κ} :
    get? members key = none ↔ key ∉ members.map Prod.fst := by
  induction members with
  | nil => simp [get?]
  | cons member rest induction =>
      rw [get?, List.map_cons, List.mem_cons, not_or, ← induction, eq_comm]
      split
      next same => simp [same]
      next different => simp [Ne.symm different, eq_comm]

theorem mem_of_get?_eq_some {members : List (κ × α)} {key : κ} {value : α}
    (found : get? members key = some value) : (key, value) ∈ members := by
  induction members with
  | nil => contradiction
  | cons member rest induction =>
      rw [get?] at found
      split at found
      next same =>
        cases found
        exact same ▸ .head rest
      next => exact .tail _ (induction found)

/-- Where every key stands once, look-up finds every member. -/
theorem get?_eq_some_iff {members : List (κ × α)} (nodup : (members.map Prod.fst).Nodup)
    {key : κ} {value : α} : get? members key = some value ↔ (key, value) ∈ members := by
  induction members with
  | nil => simp [get?]
  | cons member rest induction =>
      rcases member with ⟨name, first⟩
      rw [List.map_cons, List.nodup_cons] at nodup
      by_cases found : name = key
      · subst name
        have absent : (key, value) ∉ rest := fun member =>
          nodup.1 (List.mem_map.mpr ⟨(key, value), member, rfl⟩)
        simp [get?, absent, eq_comm]
      · have different : ¬key = name := fun equal => found equal.symm
        simp [get?, found, different, induction nodup.2]

/-- Look-up depends on the members alone, not on their order, where every key stands once. -/
theorem get?_of_perm {left right : List (κ × α)} (perm : left.Perm right)
    (nodup : (right.map Prod.fst).Nodup) (key : κ) : get? left key = get? right key := by
  have leftNodup : (left.map Prod.fst).Nodup := (perm.map Prod.fst).nodup_iff.mpr nodup
  apply Option.ext
  intro value
  rw [get?_eq_some_iff leftNodup, get?_eq_some_iff nodup]
  exact perm.mem_iff

theorem get?_append (left right : List (κ × α)) (key : κ) :
    get? (left ++ right) key = (get? left key).or (get? right key) := by
  induction left with
  | nil => rfl
  | cons member rest induction =>
      by_cases found : member.1 = key <;> simp [get?, found, induction]

theorem get?_map (change : α → β) (members : List (κ × α)) (key : κ) :
    get? (members.map fun (name, value) => (name, change value)) key =
      (get? members key).map change := by
  induction members with
  | nil => rfl
  | cons member rest induction =>
      rcases member with ⟨name, value⟩
      by_cases found : name = key <;> simp [get?, found, induction]

/-- What is put takes the place of what was there. -/
theorem get?_putAll (members : List (κ × α)) {additions : List (κ × α)}
    (nodup : (additions.map Prod.fst).Nodup) (key : κ) :
    get? (putAll members additions) key = (get? additions key).or (get? members key) := by
  induction additions generalizing members with
  | nil => rfl
  | cons addition rest induction =>
      rcases addition with ⟨name, value⟩
      rcases List.nodup_cons.mp nodup with ⟨fresh, nodup⟩
      have behind : get? (putAll (put members name value) rest) key =
          (get? rest key).or (if name = key then some value else get? members key) := by
        rw [induction _ nodup, get?_put]
      refine behind.trans ?_
      rw [get?]
      split
      next same =>
        rw [← same, get?_eq_none_iff.mpr fresh]
        rfl
      next => rfl

theorem put_map (change : α → β) (members : List (κ × α)) (key : κ) (value : α) :
    (put members key value).map (fun (name, old) => (name, change old)) =
      put (members.map fun (name, old) => (name, change old)) key (change value) := by
  induction members with
  | nil => rfl
  | cons member rest induction =>
      by_cases present : member.1 = key <;> simp [put, present, induction]

end LookUp

section Optional

variable {α : Type}

/-- A member that is there only if it has a value. -/
def optional (name : String) (value? : Option α) : List (String × α) :=
  value?.toList.map fun value => (name, value)

theorem get?_optional (name : String) (value? : Option α) (key : String) :
    get? (optional name value?) key = if name = key then value? else none := by
  cases value? with
  | none => simp [optional, get?]
  | some value => simp [optional, get?]

theorem optional_sublist (name : String) (value? : Option α) :
    ((optional name value?).map Prod.fst).Sublist [name] := by
  cases value? with
  | none => exact List.nil_sublist _
  | some value => exact List.Sublist.refl _

end Optional

/-- Members with some of the names, each no more often than the name is there, and with values of
one property. -/
structure Within {α : Type} (names : List String) (holds : α → Prop) (members : List (String × α)) :
    Prop where
  names : (members.map Prod.fst).Sublist names
  values : ∀ member ∈ members, holds member.2

namespace Within

variable {α : Type} {names laterNames : List String} {holds : α → Prop}
  {members laterMembers : List (String × α)}

theorem nil : Within [] holds [] := ⟨List.Sublist.refl _, fun _ member => nomatch member⟩

theorem cons {name : String} {value : α} (ofValue : holds value)
    (within : Within names holds members) :
    Within (name :: names) holds ((name, value) :: members) :=
  ⟨within.names.cons_cons name, List.forall_mem_cons.mpr ⟨ofValue, within.values⟩⟩

theorem skip (name : String) (within : Within names holds members) :
    Within (name :: names) holds members := ⟨within.names.cons name, within.values⟩

theorem append (first : Within names holds members) (second : Within laterNames holds laterMembers) :
    Within (names ++ laterNames) holds (members ++ laterMembers) where
  names := by
    rw [List.map_append]
    exact first.names.append second.names
  values := List.forall_mem_append.mpr ⟨first.values, second.values⟩

theorem optional (name : String) {value? : Option α} (ofValue : ∀ value ∈ value?, holds value) :
    Within [name] holds (Members.optional name value?) := by
  cases value? with
  | none => exact nil.skip name
  | some value => exact nil.cons (ofValue value rfl)

theorem nodup (within : Within names holds members) (distinct : names.Nodup) :
    (members.map Prod.fst).Nodup := within.names.nodup distinct

end Within

section Sorting

variable {κ α : Type} (less : κ → κ → Bool)

theorem insertBy_perm (member : κ × α) (members : List (κ × α)) :
    (insertBy less member members).Perm (member :: members) := by
  induction members with
  | nil => exact List.Perm.refl _
  | cons other rest induction =>
      rw [insertBy]
      split
      · exact List.Perm.refl _
      · exact (induction.cons other).trans (List.Perm.swap member other rest)

/-- Members put one after another into others, wherever each of them goes. -/
theorem foldl_perm {insert : List (κ × α) → κ × α → List (κ × α)}
    (step : ∀ present member, (insert present member).Perm (member :: present))
    (members present : List (κ × α)) :
    (members.foldl insert present).Perm (members ++ present) := by
  induction members generalizing present with
  | nil => exact List.Perm.refl _
  | cons member rest induction =>
      rw [List.foldl_cons]
      have inserted := (step present member).append_left rest
      exact (induction _).trans (inserted.trans List.perm_middle)

theorem sortBy_perm (members : List (κ × α)) : (sortBy less members).Perm members := by
  have sorted := foldl_perm (fun present member => insertBy_perm less member present) members []
  rwa [List.append_nil] at sorted

theorem get?_sortBy [DecidableEq κ] {members : List (κ × α)}
    (nodup : (members.map Prod.fst).Nodup) (key : κ) :
    get? (sortBy less members) key = get? members key :=
  get?_of_perm (sortBy_perm less members) nodup key

end Sorting

section Renaming

variable {κ κ' α α' : Type} {less : κ → κ → Bool} {less' : κ' → κ' → Bool}
  (rename : κ → κ') (change : α → α')
  (order : ∀ left right, less' (rename left) (rename right) = less left right)

include order

private theorem insertBy_map (member : κ × α) (sorted : List (κ × α)) :
    insertBy less' (rename member.1, change member.2)
        (sorted.map fun (key, value) => (rename key, change value)) =
      (insertBy less member sorted).map fun (key, value) => (rename key, change value) := by
  induction sorted with
  | nil => rfl
  | cons other rest induction =>
      by_cases goesBefore : less member.1 other.1 <;>
        simp [insertBy, order, goesBefore, induction]

private theorem foldl_insertBy_map (members sorted : List (κ × α)) :
    (members.map fun (key, value) => (rename key, change value)).foldl
        (fun sorted member => insertBy less' member sorted)
        (sorted.map fun (key, value) => (rename key, change value)) =
      (members.foldl (fun sorted member => insertBy less member sorted) sorted).map
        fun (key, value) => (rename key, change value) := by
  induction members generalizing sorted with
  | nil => rfl
  | cons member rest induction =>
      rw [List.map_cons, List.foldl_cons, List.foldl_cons, insertBy_map rename change order]
      exact induction _

/-- Sorting follows a change of keys that keeps their order, whatever becomes of the values. -/
theorem sortBy_map (members : List (κ × α)) :
    sortBy less' (members.map fun (key, value) => (rename key, change value)) =
      (sortBy less members).map fun (key, value) => (rename key, change value) :=
  foldl_insertBy_map rename change order members []

end Renaming

end Members

end BucketGuard
