import BucketGuard.Proofs.Json.Cut
import BucketGuard.Proofs.Json.Tree

namespace BucketGuard

/-! Compact text is unambiguous. A written value ends where the first comma, colon or closing
bracket stands that does not belong to it, so a text made of written values is made of them in one
way only, whatever the numbers in it look like. -/

namespace Json

/-! ## Compact text -/

def compactText (value : Json) : List Char := write .compact 0 value

/-- Parts between brackets, set apart by commas. -/
def joinParts (opening closing : Char) : List (List Char) → List Char
  | [] => [opening, closing]
  | part :: rest => opening :: (part ++ (rest.flatMap (',' :: ·) ++ [closing]))

/-- A member whose value is written already. -/
def memberText (member : String × List Char) : List Char := writeText member.1 ++ ':' :: member.2

private theorem writeItems_compact {items : List Json} {level : Nat}
    (written : ∀ item ∈ items, write .compact level item = compactText item) :
    writeItems .compact level items = (items.map compactText).flatMap (',' :: ·) := by
  induction items with
  | nil => rfl
  | cons item rest induction =>
      rw [writeItems, written item (List.mem_cons_self ..),
        induction fun other member => written other (List.mem_cons_of_mem _ member)]
      rfl

/-- The parts of an object, each a member with its value written. -/
def memberTexts (members : List (String × Json)) : List (String × List Char) :=
  members.map fun (key, value) => (key, compactText value)

private theorem writeMembers_compact {members : List (String × Json)} {level : Nat}
    (written : ∀ member ∈ members, write .compact level member.2 = compactText member.2) :
    writeMembers .compact level members =
      ((memberTexts members).map memberText).flatMap (',' :: ·) := by
  induction members with
  | nil => rfl
  | cons member rest induction =>
      rcases member with ⟨key, value⟩
      rw [writeMembers, written (key, value) (List.mem_cons_self ..),
        induction fun other member => written other (List.mem_cons_of_mem _ member)]
      simp [memberTexts, memberText, Layout.comma, Layout.colon]

private theorem write_arr_compact {items : List Json}
    (written : ∀ item ∈ items, ∀ level, write .compact level item = compactText item)
    (level : Nat) :
    write .compact level (.arr items) = joinParts '[' ']' (items.map compactText) := by
  cases items with
  | nil => rfl
  | cons item rest =>
      rw [write, written item (List.mem_cons_self ..),
        writeItems_compact fun other member => written other (List.mem_cons_of_mem _ member) _]
      simp [joinParts, Layout.lineBreak]

private theorem write_obj_compact {members : List (String × Json)}
    (written : ∀ member ∈ members, ∀ level, write .compact level member.2 = compactText member.2)
    (level : Nat) :
    write .compact level (.obj members) =
      joinParts '{' '}' ((memberTexts members).map memberText) := by
  cases members with
  | nil => rfl
  | cons member rest =>
      rcases member with ⟨key, value⟩
      rw [write, written (key, value) (List.mem_cons_self ..),
        writeMembers_compact fun other member => written other (List.mem_cons_of_mem _ member) _]
      simp [joinParts, memberTexts, memberText, Layout.lineBreak, Layout.colon]

/-- Without line breaks the level of a value does not show. -/
private theorem write_compact (value : Json) (level : Nat) :
    write .compact level value = compactText value := by
  induction value using Tree.inductionOn generalizing level with
  | leaf value => rfl
  | arr items induction =>
      rw [write_arr_compact induction, compactText, write_arr_compact induction]
  | obj members induction =>
      rw [write_obj_compact induction, compactText, write_obj_compact induction]

@[simp] theorem compactText_leaf (value : Scalar) : compactText (.leaf value) = writeScalar value :=
  rfl

@[simp] theorem compactText_arr (items : List Json) :
    compactText (.arr items) = joinParts '[' ']' (items.map compactText) :=
  write_arr_compact (fun item _ level => write_compact item level) 0

@[simp] theorem compactText_obj (members : List (String × Json)) :
    compactText (.obj members) = joinParts '{' '}' ((memberTexts members).map memberText) :=
  write_obj_compact (fun member _ level => write_compact member.2 level) 0

/-! ## Values -/

/-- The parts behind the first one, up to the closing bracket. -/
private theorem cutValue_parts {parts : List (List Char)} (inner : ∀ part ∈ parts, Inner part)
    {closing : Char} (closes : closing = ']' ∨ closing = '}') (depth : Nat) (rest : List Char) :
    cutValue .outside (depth + 1) (parts.flatMap (',' :: ·) ++ closing :: rest) =
      withBefore (parts.flatMap (',' :: ·) ++ [closing]) (cutValue .outside depth rest) := by
  induction parts with
  | nil =>
      rcases closes with rfl | rfl <;> rfl
  | cons part others induction =>
      have first := inner part (List.mem_cons_self ..)
      have later := induction fun other member => inner other (List.mem_cons_of_mem _ member)
      have comma (text : List Char) : cutValue .outside (depth + 1) (',' :: text) =
          withBefore [','] (cutValue .outside (depth + 1) text) := rfl
      rw [List.flatMap_cons, List.cons_append, List.cons_append, comma, List.append_assoc, first,
        later]
      simp

theorem whole_joinParts {parts : List (List Char)} (inner : ∀ part ∈ parts, Inner part)
    {opening closing : Char} (opens : opening = '[' ∨ opening = '{')
    (closes : closing = ']' ∨ closing = '}') : Whole (joinParts opening closing parts) := by
  intro depth rest
  have opened (text : List Char) : cutValue .outside depth (opening :: text) =
      withBefore [opening] (cutValue .outside (depth + 1) text) := by
    rcases opens with rfl | rfl <;> rfl
  cases parts with
  | nil =>
      have end_ := cutValue_parts inner closes depth rest
      rw [joinParts, List.cons_append, opened]
      exact (congrArg (withBefore [opening]) end_).trans (withBefore_withBefore ..)
  | cons part others =>
      have first := inner part (List.mem_cons_self ..)
      have later := cutValue_parts
        (fun other member => inner other (List.mem_cons_of_mem _ member)) closes depth rest
      rw [joinParts, List.cons_append, opened, List.append_assoc, first, List.append_assoc,
        List.cons_append, List.nil_append, later]
      simp

theorem inner_memberText {member : String × List Char} (whole : Whole member.2) :
    Inner (memberText member) := by
  have colon : Inner [':'] := fun _ _ => rfl
  have value : Inner (':' :: member.2) := colon.append whole.inner
  exact (whole_writeText member.1).inner.append value

theorem whole_compactText (value : Json) : Whole (compactText value) := by
  induction value using Tree.inductionOn with
  | leaf value => exact whole_writeScalar value
  | arr items induction =>
      rw [compactText_arr]
      refine whole_joinParts ?_ (.inl rfl) (.inl rfl)
      intro part member
      rcases List.mem_map.mp member with ⟨item, isItem, rfl⟩
      exact (induction item isItem).inner
  | obj members induction =>
      rw [compactText_obj]
      refine whole_joinParts ?_ (.inr rfl) (.inr rfl)
      intro part isPart
      rcases List.mem_map.mp isPart with ⟨written, isWritten, rfl⟩
      rcases List.mem_map.mp isWritten with ⟨member, isMember, rfl⟩
      exact inner_memberText (induction member isMember)

/-! ## One way only -/

theorem Whole.append_inj {left right : List Char} (ofLeft : Whole left) (ofRight : Whole right)
    {leftRest rightRest : List Char} (leftStops : Stops leftRest) (rightStops : Stops rightRest)
    (equal : left ++ leftRest = right ++ rightRest) : left = right ∧ leftRest = rightRest := by
  have cut := congrArg (cutValue .outside 0) equal
  rw [ofLeft, ofRight, leftStops, rightStops] at cut
  simpa [withBefore] using cut

private theorem stops_colon (text : List Char) : Stops (':' :: text) := rfl

private theorem stops_parts (parts : List (List Char)) :
    Stops (parts.flatMap (',' :: ·) ++ ['}']) := by
  cases parts <;> rfl

private theorem eq_of_memberTexts_eq {left right : List (String × List Char)}
    (leftWhole : ∀ member ∈ left, Whole member.2) (rightWhole : ∀ member ∈ right, Whole member.2)
    (equal : (left.map memberText).flatMap (',' :: ·) ++ ['}'] =
      (right.map memberText).flatMap (',' :: ·) ++ ['}']) : left = right := by
  induction left generalizing right with
  | nil =>
      cases right with
      | nil => rfl
      | cons member rest => simp at equal
  | cons leftFirst leftRest induction =>
      cases right with
      | nil => simp at equal
      | cons rightFirst rightRest =>
          rcases leftFirst with ⟨leftKey, leftValue⟩
          rcases rightFirst with ⟨rightKey, rightValue⟩
          simp only [List.map_cons, List.flatMap_cons, memberText, List.cons_append,
            List.append_assoc, List.cons.injEq, true_and] at equal
          -- The first key ends at its colon, and its value at the next comma or at the end.
          have keys := (whole_writeText leftKey).append_inj (whole_writeText rightKey)
            (stops_colon _) (stops_colon _) equal
          have leftFirst : Whole leftValue := leftWhole _ (List.mem_cons_self ..)
          have rightFirst : Whole rightValue := rightWhole _ (List.mem_cons_self ..)
          have values := leftFirst.append_inj rightFirst (stops_parts _) (stops_parts _)
            (List.cons.inj keys.2).2
          have others := induction (fun member isMember => leftWhole member (.tail _ isMember))
            (fun member isMember => rightWhole member (.tail _ isMember)) values.2
          rw [writeText_injective keys.1, values.1, others]

/-- The members of an object can be read off its compact text, each with the text of its value. -/
theorem memberTexts_injective {left right : List (String × List Char)}
    (leftWhole : ∀ member ∈ left, Whole member.2) (rightWhole : ∀ member ∈ right, Whole member.2)
    (equal : joinParts '{' '}' (left.map memberText) = joinParts '{' '}' (right.map memberText)) :
    left = right := by
  cases left with
  | nil =>
      cases right with
      | nil => rfl
      | cons member rest => simp [joinParts, memberText, writeText] at equal
  | cons leftFirst leftRest =>
      cases right with
      | nil => simp [joinParts, memberText, writeText] at equal
      | cons rightFirst rightRest =>
          have parts := congrArg (',' :: ·) (List.cons.inj equal).2
          apply eq_of_memberTexts_eq leftWhole rightWhole
          simpa using parts

end Json

end BucketGuard
