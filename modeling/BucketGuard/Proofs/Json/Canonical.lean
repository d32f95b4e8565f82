import BucketGuard.Proofs.Json.Compact
import BucketGuard.Proofs.Members
import BucketGuard.Proofs.Outcome

namespace BucketGuard

/-! Canonical text part by part. The text of an object is made of the texts of its members, sorted
by key, so values with one text can stand for each other, and a document whose keys are text has
the canonical text of a value. -/

namespace Json

/-- Canonical text in the layout that is fingerprinted. -/
def canonicalText (value : Json) : List Char := compactText value.ordered

/-- Values that canonical text does not tell apart. -/
def SameText (left right : Json) : Prop := left.canonical .compact = right.canonical .compact

theorem canonical_compact (value : Json) :
    value.canonical .compact = String.ofList value.canonicalText := rfl

theorem sameText_iff {left right : Json} :
    SameText left right ↔ left.canonicalText = right.canonicalText := by
  rw [SameText, canonical_compact, canonical_compact]
  exact String.ofList_inj

/-- Members with their values written. -/
def canonicalMembers (members : List (String × Json)) : List (String × List Char) :=
  members.map fun (key, value) => (key, canonicalText value)

@[simp] theorem canonicalText_leaf (value : Scalar) :
    canonicalText (.leaf value) = writeScalar value := rfl

@[simp] theorem canonicalText_arr (items : List Json) :
    canonicalText (.arr items) = joinParts '[' ']' (items.map canonicalText) := by
  rw [canonicalText, ordered, compactText_arr, orderedItems_eq_map, List.map_map]
  rfl

private theorem memberTexts_sorted (values : List (String × Json)) :
    memberTexts (Members.sortBy keyLess values) =
      Members.sortBy keyLess (memberTexts values) :=
  (Members.sortBy_map id compactText (fun _ _ => rfl) values).symm

theorem canonicalText_sorted (values : List (String × Json)) :
    compactText (.obj (Members.sortBy keyLess values)) =
      joinParts '{' '}' ((Members.sortBy keyLess (memberTexts values)).map memberText) := by
  rw [compactText_obj, memberTexts_sorted]

@[simp] theorem canonicalText_obj (members : List (String × Json)) :
    canonicalText (.obj members) =
      joinParts '{' '}' ((Members.sortBy keyLess (canonicalMembers members)).map memberText) := by
  rw [canonicalText, ordered, canonicalText_sorted, orderedMembers_eq_map, memberTexts,
    List.map_map]
  rfl

/-- Objects have one text if their members have the same keys and values of one text. -/
theorem SameText.obj {left right : List (String × Json)}
    (same : canonicalMembers left = canonicalMembers right) :
    SameText (.obj left) (.obj right) := by
  rw [sameText_iff, canonicalText_obj, canonicalText_obj, same]

/-- Objects with one text have values of one text under every key, where each key stands once. -/
theorem get?_eq_of_text_eq {left right : List (String × Json)}
    (leftNodup : (left.map Prod.fst).Nodup) (rightNodup : (right.map Prod.fst).Nodup)
    (equal : compactText (.obj (Members.sortBy keyLess left)) =
      compactText (.obj (Members.sortBy keyLess right)))
    (key : String) :
    (Members.get? left key).map compactText = (Members.get? right key).map compactText := by
  have whole (values : List (String × Json)) :
      ∀ member ∈ memberTexts (Members.sortBy keyLess values), Whole member.2 := by
    intro member isMember
    rcases List.mem_map.mp isMember with ⟨value, -, rfl⟩
    exact whole_compactText value.2
  rw [compactText_obj, compactText_obj] at equal
  have members := memberTexts_injective (whole left) (whole right) equal
  have found := congrArg (Members.get? · key) members
  simp only [memberTexts, Members.get?_map, Members.get?_sortBy keyLess leftNodup,
    Members.get?_sortBy keyLess rightNodup] at found
  exact found

theorem SameText.get? {left right : List (String × Json)}
    (leftNodup : (left.map Prod.fst).Nodup) (rightNodup : (right.map Prod.fst).Nodup)
    (same : SameText (.obj left) (.obj right)) (key : String) :
    (Members.get? left key).map canonicalText = (Members.get? right key).map canonicalText := by
  have keys (members : List (String × Json)) :
      (orderedMembers members).map Prod.fst = members.map Prod.fst := by
    rw [orderedMembers_eq_map, List.map_map]
    rfl
  have found := get?_eq_of_text_eq (by rwa [keys]) (by rwa [keys]) (sameText_iff.mp same) key
  simp only [orderedMembers_eq_map, Members.get?_map, Option.map_map] at found
  exact found

end Json

namespace Document

/-! ## Documents whose keys are text -/

/-- Fields with their documents sorted and turned into values. -/
def orderedFields : List (String × Document) → Except KeyFault (List (String × Json))
  | [] => .ok []
  | (key, document) :: rest => do
      let value ← ordered document
      let rest ← orderedFields rest
      return (key, value) :: rest

theorem orderedFields_append (first second : List (String × Document)) :
    orderedFields (first ++ second) = do
      let first ← orderedFields first
      let second ← orderedFields second
      return first ++ second := by
  induction first with
  | nil =>
      rw [List.nil_append, orderedFields]
      cases orderedFields second <;> rfl
  | cons field rest induction =>
      rw [List.cons_append, orderedFields, orderedFields, induction]
      cases field.2.ordered with
      | error fault => rfl
      | ok value =>
          cases orderedFields rest with
          | error fault => rfl
          | ok values => cases orderedFields second <;> rfl

/-- Texts are in order with each other. -/
theorem orderFault?_str (keys : List String) : orderFault? (keys.map .str) = none := by
  induction keys with
  | nil => rfl
  | cons first rest induction =>
      cases rest with
      | nil => rfl
      | cons second rest => exact induction

theorem arrange_str {α : Type} (members : List (String × α)) :
    arrange (members.map fun (key, value) => (Scalar.str key, value)) =
      (Members.sortBy Json.keyLess members).map fun (key, value) => (Scalar.str key, value) := by
  have placed : (members.map fun (key, value) => (Scalar.str key, value)).any
      (·.1.isUnplaced) = false := by
    simp [Scalar.isUnplaced]
  rw [arrange, placed, if_neg Bool.false_ne_true]
  exact Members.sortBy_map Scalar.str id (fun _ _ => rfl) members

private theorem orderedMembers_str (fields : List (String × Document)) :
    orderedMembers (fields.map fun (key, value) => (.str key, value)) =
      (orderedFields fields).map fun values =>
        values.map fun (key, value) => (.str key, value) := by
  induction fields with
  | nil => rfl
  | cons field rest induction =>
      rcases field with ⟨key, document⟩
      rw [List.map_cons, orderedMembers, orderedFields, induction]
      cases ordered document with
      | error fault => rfl
      | ok value => cases orderedFields rest <;> rfl

theorem ordered_ofFields (fields : List (String × Document)) :
    (ofFields fields).ordered =
      (orderedFields fields).map fun values => .obj (Members.sortBy Json.keyLess values) := by
  have keys : (fields.map fun (key, value) => (Scalar.str key, value)).map Prod.fst =
      (fields.map Prod.fst).map .str := by
    rw [List.map_map, List.map_map]
    rfl
  rw [ofFields, ordered, keys, orderFault?_str, orderedMembers_str]
  cases orderedFields fields with
  | error fault => rfl
  | ok values =>
      change Except.ok (Tree.obj ((arrange _).map _)) = _
      rw [arrange_str, List.map_map]
      exact congrArg (Except.ok ∘ Tree.obj) (List.map_id _)

/-! ## Values as documents -/

private theorem orderedItems_ofJson {items : List Json}
    (written : ∀ item ∈ items, (ofJson item).ordered = .ok item.ordered) :
    orderedItems (items.map ofJson) = .ok (items.map Json.ordered) := by
  induction items with
  | nil => rfl
  | cons item rest induction =>
      rw [List.map_cons, orderedItems, written item (List.mem_cons_self ..),
        induction fun other member => written other (List.mem_cons_of_mem _ member)]
      rfl

theorem orderedFields_ofJson {members : List (String × Json)}
    (written : ∀ member ∈ members, (ofJson member.2).ordered = .ok member.2.ordered) :
    orderedFields (members.map fun (key, value) => (key, ofJson value)) =
      .ok (members.map fun (key, value) => (key, value.ordered)) := by
  induction members with
  | nil => rfl
  | cons member rest induction =>
      rw [List.map_cons, orderedFields, written member (List.mem_cons_self ..),
        induction fun other isMember => written other (List.mem_cons_of_mem _ isMember)]
      rfl

/-- A value is written as a document the way it is written itself. -/
theorem ordered_ofJson (value : Json) : (ofJson value).ordered = .ok value.ordered := by
  induction value using Tree.inductionOn with
  | leaf value => rfl
  | arr items induction =>
      rw [ofJson, ofItems_eq_map, ordered, orderedItems_ofJson induction, Json.ordered,
        Json.orderedItems_eq_map]
      rfl
  | obj members induction =>
      have fields : ofJson (.obj members) =
          ofFields (members.map fun (key, value) => (key, ofJson value)) := by
        rw [ofJson, ofMembers_eq_map, ofFields, List.map_map]
        rfl
      rw [fields, ordered_ofFields, orderedFields_ofJson induction, Json.ordered,
        Json.orderedMembers_eq_map]
      rfl

end Document

end BucketGuard
