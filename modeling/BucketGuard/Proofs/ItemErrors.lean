import BucketGuard.Proofs.Acceptance
import BucketGuard.Proofs.Path

namespace BucketGuard

/-! Errors by their places. In a list whose items are judged one by one, an item that is at fault is
reported at its own place and once, whatever is wrong with the others. -/

namespace Path

/-! ## Errors at one place -/

section Place

variable {place : Path} {errors : List FieldError}

theorem filter_eq_nil (elsewhere : ∀ error ∈ errors, error.path ≠ place) :
    errors.filter (·.path = place) = [] := by
  rw [List.filter_eq_nil_iff]
  intro error member
  rw [decide_eq_true_eq]
  exact elsewhere error member

theorem filter_eq_self (there : ∀ error ∈ errors, error.path = place) :
    errors.filter (·.path = place) = errors := by
  rw [List.filter_eq_self]
  intro error member
  rw [decide_eq_true_eq]
  exact there error member

end Place

/-- There is one error where there is a fault, and none otherwise. -/
structure ReportsOnce (atFault : Prop) (errors : List FieldError) : Prop where
  reported : errors ≠ [] ↔ atFault
  once : errors.length ≤ 1

theorem reportsOnce_flag (path : Path) (flawed : Bool) (problem : Problem) :
    ReportsOnce (flawed = true) (path.flag flawed problem) := by
  cases flawed with
  | false => exact ⟨by simp [flag], Nat.zero_le 1⟩
  | true => exact ⟨by simp [flag], Nat.le_refl 1⟩

theorem ReportsOnce.iff {atFault other : Prop} {errors : List FieldError}
    (once : ReportsOnce atFault errors) (same : atFault ↔ other) : ReportsOnce other errors :=
  ⟨once.reported.trans same, once.once⟩

theorem reportsOnce_nil {atFault : Prop} (sound : ¬atFault) : ReportsOnce atFault [] :=
  ⟨by simp [sound], Nat.zero_le 1⟩

/-! ## Items judged one by one -/

section Items

variable {α : Type} (path : Path) (isSound : α → Bool) (problem : α → Problem)

/-- The items from an index on that are not sound. -/
def flagEach (index : Nat) : List α → List FieldError
  | [] => []
  | item :: rest =>
      (path.item index).flag (!isSound item) (problem item) ++ flagEach (index + 1) rest

variable {path isSound problem} {index : Nat} {items : List α}

theorem flagEach_eq_nil_iff :
    path.flagEach isSound problem index items = [] ↔ ∀ item ∈ items, isSound item = true := by
  induction items generalizing index with
  | nil => simp [flagEach]
  | cons item rest induction =>
      rw [flagEach, List.append_eq_nil_iff, flag_eq_nil_iff, induction, List.forall_mem_cons,
        Bool.not_eq_false']

theorem exists_item_of_mem_flagEach {error : FieldError}
    (member : error ∈ path.flagEach isSound problem index items) :
    ∃ place, index ≤ place ∧ error.path = path.item place := by
  induction items generalizing index with
  | nil => contradiction
  | cons item rest induction =>
      rcases List.mem_append.mp member with own | later
      · exact ⟨index, Nat.le_refl index, path_of_mem_flag own⟩
      · rcases induction later with ⟨place, isLater, equal⟩
        exact ⟨place, Nat.le_of_succ_le isLater, equal⟩

theorem isAbove_of_mem_flagEach {error : FieldError}
    (member : error ∈ path.flagEach isSound problem index items) : path.IsAbove error := by
  rcases exists_item_of_mem_flagEach member with ⟨place, -, equal⟩
  exact (isAbove_of_eq equal).of_item

/-- The errors at an index are those of the item at this index. -/
theorem filter_flagEach (path : Path) (isSound : α → Bool) (problem : α → Problem)
    (index place : Nat) (items : List α) :
    (path.flagEach isSound problem index items).filter (·.path = path.item (index + place)) =
      match items[place]? with
      | none => []
      | some item => (path.item (index + place)).flag (!isSound item) (problem item) := by
  induction items generalizing index place with
  | nil => rfl
  | cons item rest induction =>
      rw [flagEach, List.filter_append]
      cases place with
      | zero =>
          have later : (path.flagEach isSound problem (index + 1) rest).filter
              (·.path = path.item index) = [] := by
            apply filter_eq_nil
            intro error member equal
            rcases exists_item_of_mem_flagEach member with ⟨place, isLater, isItem⟩
            exact Nat.ne_of_gt isLater (path.item_injective (isItem.symm.trans equal))
          rw [Nat.add_zero, later, List.append_nil]
          exact filter_eq_self fun error member => path_of_mem_flag member
      | succ place =>
          have own : ((path.item index).flag (!isSound item) (problem item)).filter
              (·.path = path.item (index + (place + 1))) = [] := by
            apply filter_eq_nil
            intro error member equal
            have same := path.item_injective ((path_of_mem_flag member).symm.trans equal)
            omega
          have later := induction (index + 1) place
          rw [Nat.add_right_comm, Nat.add_assoc] at later
          rw [own, List.nil_append, List.getElem?_cons_succ]
          exact later

theorem reportsOnce_flagEach (path : Path) {isSound : α → Bool} (problem : α → Problem)
    {holds : α → Prop} (sound : ∀ item, isSound item = true ↔ holds item) (place : Nat)
    (items : List α) :
    ReportsOnce (∃ item ∈ items[place]?, ¬holds item)
      ((path.flagEach isSound problem 0 items).filter (·.path = path.item place)) := by
  have reported := filter_flagEach path isSound problem 0 place items
  rw [Nat.zero_add] at reported
  rw [reported]
  cases items[place]? with
  | none => exact reportsOnce_nil (by simp)
  | some item =>
      simpa [← sound] using reportsOnce_flag (path.item place) (!isSound item) (problem item)

/-! ## Errors under other fields -/

theorem filter_item_flag (path : Path) (flawed : Bool) (problem : Problem) (place : Nat) :
    (path.flag flawed problem).filter (·.path = path.item place) = [] := by
  apply filter_eq_nil
  intro error member equal
  have lengths := congrArg (·.steps.length) ((path_of_mem_flag member).symm.trans equal)
  simp [item] at lengths

theorem filter_field_eq_nil {name other : String} {errors : List FieldError}
    (different : other ≠ name) (ofOther : ∀ error ∈ errors, (path.field other).IsAbove error)
    (place : Nat) : errors.filter (·.path = (path.field name).item place) = [] := by
  apply filter_eq_nil
  intro error member equal
  have ofName : (path.field name).IsAbove error := (isAbove_of_eq equal).of_item
  exact different ((ofOther error member).field_unique ofName)

theorem filter_field_flag {name other : String} (different : other ≠ name) (flawed : Bool)
    (problem : Problem) (place : Nat) :
    ((path.field other).flag flawed problem).filter
      (·.path = (path.field name).item place) = [] :=
  filter_field_eq_nil different (fun _ => isAbove_of_mem_flag) place

theorem filter_field_flagEach {name other : String} (different : other ≠ name)
    (isSound : α → Bool) (problem : α → Problem) (items : List α) (place : Nat) :
    ((path.field other).flagEach isSound problem 0 items).filter
      (·.path = (path.field name).item place) = [] :=
  filter_field_eq_nil different (fun _ => isAbove_of_mem_flagEach) place

end Items

end Path

theorem Json.textErrors_eq_flagEach (path : Path) (problem : Json → Problem) (index : Nat)
    (items : List Json) :
    textErrors path problem index items = path.flagEach isText problem index items := by
  induction items generalizing index with
  | nil => rfl
  | cons item rest induction => rw [textErrors, Path.flagEach, induction]

theorem PrincipalSet.listErrors_eq_flagEach (path : Path) (index : Nat) (sets : List PrincipalSet) :
    listErrors path index sets =
      path.flagEach isComplete (fun _ => .principalIncomplete) index sets := by
  induction sets generalizing index with
  | nil => rfl
  | cons set rest induction => rw [listErrors, Path.flagEach, induction]

end BucketGuard
