import BucketGuard.Json.Kind
import BucketGuard.Path
import BucketGuard.Proofs.Members

namespace BucketGuard

/-! Places in documents: what is held at a place, and the document with something else there. -/

namespace Members

variable {κ α : Type} [DecidableEq κ]

/-- The members with a value under a key, or with no such key. -/
def assign (members : List (κ × α)) (key : κ) : Option α → List (κ × α)
  | some value => put members key value
  | none => members.filter (·.1 ≠ key)

def modify (members : List (κ × α)) (key : κ) (change : α → α) : List (κ × α) :=
  members.map fun (name, value) => (name, if name = key then change value else value)

@[simp] theorem get?_assign (members : List (κ × α)) (key other : κ) (value? : Option α) :
    get? (assign members key value?) other = if key = other then value? else get? members other := by
  cases value? with
  | some value => exact get?_put members key other value
  | none =>
      induction members with
      | nil => simp [assign, get?]
      | cons member rest induction =>
          rw [assign] at induction ⊢
          by_cases same : member.1 = key
          · rw [List.filter_cons_of_neg (by simp [same]), induction, get?, same]
            split <;> rfl
          · rw [List.filter_cons_of_pos (by simp [same]), get?, get?, induction]
            by_cases found : member.1 = other
            · have different : key ≠ other := fun equal => same (found.trans equal.symm)
              rw [if_pos found, if_neg different, if_pos found]
            · rw [if_neg found, if_neg found]

@[simp] theorem get?_modify (members : List (κ × α)) (key other : κ) (change : α → α) :
    get? (modify members key change) other =
      if key = other then (get? members other).map change else get? members other := by
  induction members with
  | nil => simp [modify, get?]
  | cons member rest induction =>
      rw [modify] at induction ⊢
      rw [List.map_cons, get?, get?, induction]
      by_cases found : member.1 = other
      · subst found
        rw [if_pos rfl, if_pos rfl]
        by_cases same : member.1 = key
        · rw [if_pos same, if_pos same.symm]
          rfl
        · rw [if_neg same, if_neg (Ne.symm same)]
      · rw [if_neg found, if_neg found]

end Members

namespace Json

/-- What a document holds at a place. -/
def at? : List Step → Json → Option Json
  | [], value => some value
  | .field name :: rest, .obj members => (Members.get? members name).bind (at? rest)
  | .item index :: rest, .arr items => items[index]?.bind (at? rest)
  | _, _ => none

theorem at?_append (front back : List Step) (value : Json) :
    at? (front ++ back) value = (at? front value).bind (at? back) := by
  induction front generalizing value with
  | nil => rfl
  | cons step rest induction =>
      have later : at? (rest ++ back) = fun value => (at? rest value).bind (at? back) :=
        funext induction
      cases step <;> cases value <;> simp [at?, later, Option.bind_assoc]

/-- The document with something else, or nothing, under the key at which a place ends. A document
without the object that has this key stays as it is. -/
def replaced (value? : Option Json) : List Step → Json → Json
  | [.field name], .obj members => .obj (Members.assign members name value?)
  | .field name :: rest, .obj members => .obj (Members.modify members name (replaced value? rest))
  | .item index :: rest, .arr items => .arr (items.modify index (replaced value? rest))
  | _, value => value

/-- Above the last key the objects on the way are changed in one member. -/
theorem replaced_field_cons (value? : Option Json) (name : String) {rest : List Step}
    (goesOn : rest ≠ []) (members : List (String × Json)) :
    replaced value? (.field name :: rest) (.obj members) =
      .obj (Members.modify members name (replaced value? rest)) := by
  cases rest with
  | nil => contradiction
  | cons step others => rfl

theorem kind_replaced (value? : Option Json) (steps : List Step) (value : Json) :
    (replaced value? steps value).kind = value.kind := by
  fun_cases replaced value? steps value <;> rfl

theorem replaced_leaf (value? : Option Json) (steps : List Step) (scalar : Scalar) :
    replaced value? steps (.leaf scalar) = .leaf scalar := by
  cases steps with
  | nil => rfl
  | cons step rest => cases step <;> simp [replaced]

theorem replaced_field_arr (value? : Option Json) (name : String) (rest : List Step)
    (items : List Json) : replaced value? (.field name :: rest) (.arr items) = .arr items := by
  simp [replaced]

/-- The new value is found where it was put. -/
theorem at?_replaced (value? : Option Json) (name : String) {holder : List Step}
    {document : Json} {members : List (String × Json)}
    (isHolder : at? holder document = some (.obj members)) :
    at? (holder ++ [.field name]) (replaced value? (holder ++ [.field name]) document) = value? := by
  induction holder generalizing document with
  | nil =>
      cases isHolder
      simp [replaced, at?]
  | cons step rest induction =>
      cases step with
      | field key =>
          cases document with
          | obj own =>
              rcases Option.bind_eq_some_iff.mp isHolder with ⟨inner, found, isHolder⟩
              rw [List.cons_append, replaced_field_cons _ _ (by simp), at?, Members.get?_modify,
                if_pos rfl, found]
              exact induction isHolder
          | _ => contradiction
      | item index =>
          cases document with
          | arr items =>
              rcases Option.bind_eq_some_iff.mp isHolder with ⟨inner, found, isHolder⟩
              rw [List.cons_append, replaced, at?, List.getElem?_modify, found]
              simpa using induction isHolder
          | _ => contradiction

end Json

end BucketGuard
