import BucketGuard.Problem

namespace BucketGuard

/-! Places and their texts. A place is named by its text alone as long as no name in it has a mark
that sets steps apart, so a message about a text is a message about one place. -/

/-! ## Cutting at the first mark -/

/-- A text is empty or begins with a mark. -/
def StartsWith (isMark : Char → Bool) (text : List Char) : Prop :=
  text = [] ∨ ∃ character rest, text = character :: rest ∧ isMark character

theorem takeWhile_append_of_startsWith {isMark : Char → Bool} {name rest : List Char}
    (noMark : ∀ character ∈ name, isMark character = false) (starts : StartsWith isMark rest) :
    (name ++ rest).takeWhile (!isMark ·) = name := by
  have all : ∀ character ∈ name, (!isMark character) = true := by
    intro character member
    rw [noMark character member]
    rfl
  rw [List.takeWhile_append_of_pos all]
  rcases starts with rfl | ⟨character, others, rfl, isMarked⟩
  · rw [List.takeWhile_nil, List.append_nil]
  · rw [List.takeWhile_cons, isMarked]
    exact List.append_nil name

/-- What stands before the first mark is determined by the whole. -/
theorem append_inj_of_startsWith (isMark : Char → Bool) {left right leftRest rightRest : List Char}
    (leftPlain : ∀ character ∈ left, isMark character = false)
    (rightPlain : ∀ character ∈ right, isMark character = false)
    (leftStarts : StartsWith isMark leftRest) (rightStarts : StartsWith isMark rightRest)
    (equal : left ++ leftRest = right ++ rightRest) : left = right ∧ leftRest = rightRest := by
  have names : left = right := by
    rw [← takeWhile_append_of_startsWith leftPlain leftStarts, equal,
      takeWhile_append_of_startsWith rightPlain rightStarts]
  subst names
  exact ⟨rfl, List.append_cancel_left equal⟩

/-! ## Texts of places -/

/-- A character that begins a step. -/
def isStepMark (character : Char) : Bool := character = '.' || character = '['

def IsPlainName (name : String) : Prop := ∀ character ∈ name.toList, isStepMark character = false

instance (name : String) : Decidable (IsPlainName name) :=
  decidable_of_iff (name.toList.all (!isStepMark ·)) (by simp [IsPlainName])

namespace Step

def IsPlain : Step → Prop
  | .field name => IsPlainName name
  | .item _ => True

@[simp] theorem isPlain_item (index : Nat) : (Step.item index).IsPlain := trivial

private theorem text_field (name : String) : (field name).text.toList = '.' :: name.toList := by
  simp [text]

private theorem text_item (index : Nat) :
    (item index).text.toList = '[' :: (Nat.toDigits 10 index ++ [']']) := by
  have written : (item index).text = "[" ++ toString index ++ "]" := rfl
  simp [written]

theorem startsWith_texts (steps : List Step) :
    StartsWith isStepMark (steps.flatMap (·.text.toList)) := by
  cases steps with
  | nil => exact .inl rfl
  | cons step rest =>
      rw [List.flatMap_cons]
      cases step with
      | field name => exact .inr ⟨_, _, congrArg (· ++ _) (text_field name), rfl⟩
      | item index => exact .inr ⟨_, _, congrArg (· ++ _) (text_item index), rfl⟩

private theorem digits_ne_bracket (index : Nat) :
    ∀ character ∈ Nat.toDigits 10 index, (character = ']' : Bool) = false := by
  intro character member
  have isDigit := Nat.isDigit_of_mem_toDigits (by decide) (by decide) member
  rw [decide_eq_false_iff_not]
  rintro rfl
  contradiction

private theorem toDigits_injective {left right : Nat}
    (equal : Nat.toDigits 10 left = Nat.toDigits 10 right) : left = right := by
  rw [← Nat.ofDigitChars_ten_toDigits (n := left), equal, Nat.ofDigitChars_ten_toDigits]

/-- A row of plain steps can be read off its text. -/
private theorem texts_injective {left right : List Step} (leftPlain : ∀ step ∈ left, step.IsPlain)
    (rightPlain : ∀ step ∈ right, step.IsPlain)
    (equal : left.flatMap (·.text.toList) = right.flatMap (·.text.toList)) : left = right := by
  induction left generalizing right with
  | nil =>
      cases right with
      | nil => rfl
      | cons step rest => cases step <;> simp [text_field, text_item] at equal
  | cons first leftRest induction =>
      cases right with
      | nil => cases first <;> simp [text_field, text_item] at equal
      | cons second rightRest =>
          rw [List.forall_mem_cons] at leftPlain rightPlain
          rw [List.flatMap_cons, List.flatMap_cons] at equal
          cases first with
          | field leftName =>
              cases second with
              | item index => simp [text_field, text_item] at equal
              | field rightName =>
                  rw [text_field, text_field, List.cons_append, List.cons_append] at equal
                  have names := append_inj_of_startsWith _ leftPlain.1 rightPlain.1
                    (startsWith_texts leftRest) (startsWith_texts rightRest) (List.cons.inj equal).2
                  rw [String.toList_inj.mp names.1, induction leftPlain.2 rightPlain.2 names.2]
          | item leftIndex =>
              cases second with
              | field name => simp [text_field, text_item] at equal
              | item rightIndex =>
                  rw [text_item, text_item, List.cons_append, List.cons_append, List.append_assoc,
                    List.append_assoc] at equal
                  -- The digits end at the closing bracket.
                  have digits := append_inj_of_startsWith (· = ']')
                    (digits_ne_bracket leftIndex) (digits_ne_bracket rightIndex)
                    (.inr ⟨_, _, rfl, rfl⟩) (.inr ⟨_, _, rfl, rfl⟩) (List.cons.inj equal).2
                  rw [toDigits_injective digits.1,
                    induction leftPlain.2 rightPlain.2 (List.cons.inj digits.2).2]

end Step

namespace Path

/-- No name in the path has a mark that begins a step. -/
structure IsPlain (path : Path) : Prop where
  root : IsPlainName path.root
  steps : ∀ step ∈ path.steps, step.IsPlain

theorem text_ofRoot (root : String) : (ofRoot root).text = root := String.append_empty

theorem text_field (path : Path) (name : String) :
    (path.field name).text = path.text ++ ("." ++ name) := by
  simp [text, field, Step.text, String.append_assoc]

theorem text_item (path : Path) (index : Nat) :
    (path.item index).text = path.text ++ ("[" ++ toString index ++ "]") := by
  have written : (Step.item index).text = "[" ++ toString index ++ "]" := rfl
  simp [text, item, written, String.append_assoc]

/-- The text of a field of an item of a list at a root. -/
theorem text_field_item (root : String) (index : Nat) (name : String) :
    (((ofRoot root).item index).field name).text =
      root ++ "[" ++ toString index ++ ("]." ++ name) := by
  rw [text_field, text_item, text_ofRoot, ← String.toList_inj]
  simp

theorem text_toList (path : Path) :
    path.text.toList = path.root.toList ++ path.steps.flatMap (·.text.toList) := by
  rw [text, String.toList_append, String.toList_join, List.flatMap_map]

theorem text_injective {left right : Path} (leftPlain : left.IsPlain) (rightPlain : right.IsPlain)
    (equal : left.text = right.text) : left = right := by
  have texts := congrArg String.toList equal
  rw [text_toList, text_toList] at texts
  have parts := append_inj_of_startsWith _ leftPlain.root rightPlain.root
    (Step.startsWith_texts left.steps) (Step.startsWith_texts right.steps) texts
  have steps := Step.texts_injective leftPlain.steps rightPlain.steps parts.2
  cases left
  cases right
  rw [mk.injEq]
  exact ⟨String.toList_inj.mp parts.1, steps⟩

theorem isPlain_ofRoot {root : String} (plain : IsPlainName root) : (ofRoot root).IsPlain where
  root := plain
  steps := List.forall_mem_nil _

theorem IsPlain.field {path : Path} (plain : path.IsPlain) {name : String}
    (plainName : IsPlainName name) : (path.field name).IsPlain where
  root := plain.root
  steps := List.forall_mem_append.mpr ⟨plain.steps, List.forall_mem_singleton.mpr plainName⟩

theorem IsPlain.item {path : Path} (plain : path.IsPlain) (index : Nat) :
    (path.item index).IsPlain where
  root := plain.root
  steps := List.forall_mem_append.mpr ⟨plain.steps, List.forall_mem_singleton.mpr trivial⟩

theorem item_injective (path : Path) {left right : Nat} (same : path.item left = path.item right) :
    left = right := by
  simpa [item] using same

/-! ## Places above errors -/

def below (path : Path) (steps : List Step) : Path := { path with steps := path.steps ++ steps }

/-- The error is at the path or some plain steps below it. -/
def IsAbove (path : Path) (error : FieldError) : Prop :=
  ∃ steps : List Step, (∀ step ∈ steps, step.IsPlain) ∧ error.path = path.below steps

theorem isAbove_of_eq {path : Path} {error : FieldError} (equal : error.path = path) :
    path.IsAbove error := by
  refine ⟨[], List.forall_mem_nil _, ?_⟩
  rw [equal, below, List.append_nil]

theorem path_of_mem_flag {path : Path} {flawed : Bool} {problem : Problem} {error : FieldError}
    (member : error ∈ path.flag flawed problem) : error.path = path := by
  unfold flag at member
  split at member
  · exact congrArg FieldError.path (List.mem_singleton.mp member)
  · contradiction

theorem isAbove_of_mem_flag {path : Path} {flawed : Bool} {problem : Problem} {error : FieldError}
    (member : error ∈ path.flag flawed problem) : path.IsAbove error :=
  isAbove_of_eq (path_of_mem_flag member)

theorem exists_at_append_iff {place : Path} {first second : List FieldError} :
    (∃ error ∈ first ++ second, error.path = place) ↔
      (∃ error ∈ first, error.path = place) ∨ ∃ error ∈ second, error.path = place := by
  simp only [List.mem_append, or_and_right, exists_or]

theorem exists_at_flag_iff {path place : Path} {flawed : Bool} {problem : Problem} :
    (∃ error ∈ path.flag flawed problem, error.path = place) ↔ flawed = true ∧ path = place := by
  cases flawed <;> simp [flag]

private theorem IsAbove.of_below {path : Path} (step : Step) {error : FieldError}
    (plain : step.IsPlain) (above : (path.below [step]).IsAbove error) : path.IsAbove error := by
  rcases above with ⟨steps, plainSteps, equal⟩
  refine ⟨step :: steps, List.forall_mem_cons.mpr ⟨plain, plainSteps⟩, ?_⟩
  rw [equal, below, below, below, List.append_assoc]
  rfl

theorem IsAbove.of_field {path : Path} {name : String} {error : FieldError}
    (plain : IsPlainName name) (above : (path.field name).IsAbove error) : path.IsAbove error :=
  IsAbove.of_below (.field name) plain above

theorem IsAbove.of_item {path : Path} {index : Nat} {error : FieldError}
    (above : (path.item index).IsAbove error) : path.IsAbove error :=
  IsAbove.of_below (.item index) trivial above

/-- An error is below one step of a path at the most. -/
theorem IsAbove.step_unique {path : Path} {left right : Step} {error : FieldError}
    (ofLeft : (path.below [left]).IsAbove error) (ofRight : (path.below [right]).IsAbove error) :
    left = right := by
  rcases ofLeft with ⟨leftSteps, -, isLeft⟩
  rcases ofRight with ⟨rightSteps, -, isRight⟩
  have steps := congrArg Path.steps (isLeft.symm.trans isRight)
  simp only [below, List.append_assoc, List.append_cancel_left_eq, List.singleton_append,
    List.cons.injEq] at steps
  exact steps.1

theorem IsAbove.field_unique {path : Path} {left right : String} {error : FieldError}
    (ofLeft : (path.field left).IsAbove error) (ofRight : (path.field right).IsAbove error) :
    left = right :=
  Step.field.inj (step_unique ofLeft ofRight)

theorem IsAbove.item_unique {path : Path} {left right : Nat} {error : FieldError}
    (ofLeft : (path.item left).IsAbove error) (ofRight : (path.item right).IsAbove error) :
    left = right :=
  Step.item.inj (step_unique ofLeft ofRight)

theorem IsAbove.root {path : Path} {error : FieldError} (above : path.IsAbove error) :
    error.path.root = path.root := by
  rcases above with ⟨steps, -, equal⟩
  rw [equal]
  rfl

theorem IsAbove.isPlain {path : Path} {error : FieldError} (plain : path.IsPlain)
    (above : path.IsAbove error) : error.path.IsPlain := by
  rcases above with ⟨steps, plainSteps, equal⟩
  rw [equal]
  exact ⟨plain.root, List.forall_mem_append.mpr ⟨plain.steps, plainSteps⟩⟩

end Path

end BucketGuard
