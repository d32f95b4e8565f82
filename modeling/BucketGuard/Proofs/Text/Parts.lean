import BucketGuard.Text.Parts

namespace BucketGuard.Text

/-! Cutting a text loses nothing: the parts with the separator between them are the text again, and
no part has a separator in it. -/

theorem splitOn_ne_nil (separator : Char) (text : List Char) : splitOn separator text ≠ [] := by
  cases text with
  | nil => exact List.cons_ne_nil _ _
  | cons character rest =>
      rw [splitOn]
      split
      · exact List.cons_ne_nil _ _
      · split
        · exact List.cons_ne_nil _ _
        · exact List.cons_ne_nil _ _

/-- The first part takes in a character that is no separator. -/
theorem splitOn_cons_of_ne {separator character : Char} {rest part : List Char}
    {parts : List (List Char)} (different : character ≠ separator)
    (others : splitOn separator rest = part :: parts) :
    splitOn separator (character :: rest) = (character :: part) :: parts := by
  rw [splitOn, if_neg different, others]

theorem intercalate_splitOn (separator : Char) (text : List Char) :
    [separator].intercalate (splitOn separator text) = text := by
  induction text with
  | nil => rfl
  | cons character rest induction =>
      by_cases equal : character = separator
      · have more := splitOn_ne_nil separator rest
        rw [splitOn, if_pos equal, List.intercalate_cons_of_ne_nil more, induction, equal]
        rfl
      · cases others : splitOn separator rest with
        | nil => exact absurd others (splitOn_ne_nil separator rest)
        | cons part parts =>
            rw [others] at induction
            rw [splitOn_cons_of_ne equal others]
            cases parts with
            | nil =>
                rw [List.intercalate_singleton] at induction ⊢
                rw [induction]
            | cons next others =>
                rw [List.intercalate_cons_cons] at induction ⊢
                rw [← induction]
                rfl

theorem not_mem_of_mem_splitOn {separator : Char} {text part : List Char}
    (member : part ∈ splitOn separator text) : separator ∉ part := by
  induction text generalizing part with
  | nil =>
      rw [splitOn, List.mem_singleton] at member
      rw [member]
      exact List.not_mem_nil
  | cons character rest induction =>
      by_cases equal : character = separator
      · rw [splitOn, if_pos equal] at member
        rcases List.mem_cons.mp member with rfl | later
        · exact List.not_mem_nil
        · exact induction later
      · cases others : splitOn separator rest with
        | nil => exact absurd others (splitOn_ne_nil separator rest)
        | cons first parts =>
            rw [splitOn_cons_of_ne equal others] at member
            rcases List.mem_cons.mp member with rfl | later
            · intro inside
              rcases List.mem_cons.mp inside with same | inside
              · exact equal same.symm
              · exact induction (others ▸ List.mem_cons_self ..) inside
            · exact induction (others ▸ List.mem_cons_of_mem _ later)

theorem splitOn_of_not_mem {separator : Char} {text : List Char} (absent : separator ∉ text) :
    splitOn separator text = [text] := by
  induction text with
  | nil => rfl
  | cons character rest induction =>
      rw [List.mem_cons, not_or] at absent
      exact splitOn_cons_of_ne (Ne.symm absent.1) (induction absent.2)

theorem splitOn_append {separator : Char} {part : List Char} (absent : separator ∉ part)
    (rest : List Char) :
    splitOn separator (part ++ separator :: rest) = part :: splitOn separator rest := by
  induction part with
  | nil => rw [List.nil_append, splitOn, if_pos rfl]
  | cons character others induction =>
      rw [List.mem_cons, not_or] at absent
      exact splitOn_cons_of_ne (Ne.symm absent.1) (induction absent.2)

/-- Parts without a separator are those of the text that they make. -/
theorem splitOn_intercalate {separator : Char} {part : List Char} {parts : List (List Char)}
    (absent : ∀ other ∈ part :: parts, separator ∉ other) :
    splitOn separator ([separator].intercalate (part :: parts)) = part :: parts := by
  induction parts generalizing part with
  | nil =>
      rw [List.intercalate_singleton]
      exact splitOn_of_not_mem (absent part (.head _))
  | cons next others induction =>
      have later := induction fun other member => absent other (.tail _ member)
      rw [List.intercalate_cons_cons, List.append_assoc, List.singleton_append,
        splitOn_append (absent part (.head _)), later]

/-! ## Line breaks -/

/-- Nothing but one line break at the very end is left off. -/
theorem withoutFinalBreak_append (text : List Char) :
    ∃ tail, text = withoutFinalBreak text ++ tail := by
  fun_induction withoutFinalBreak text with
  | case1 => exact ⟨[], rfl⟩
  | case2 => exact ⟨['\n'], rfl⟩
  | case3 character rest last induction =>
      rcases induction with ⟨tail, equal⟩
      exact ⟨tail, congrArg (character :: ·) equal⟩

theorem mem_withoutFinalBreak_or {text : List Char} {character : Char}
    (member : character ∈ text) : character ∈ withoutFinalBreak text ∨ character = '\n' := by
  fun_induction withoutFinalBreak text with
  | case1 => contradiction
  | case2 => exact .inr (List.mem_singleton.mp member)
  | case3 first rest last induction =>
      rcases List.mem_cons.mp member with rfl | later
      · exact .inl (.head _)
      · exact (induction later).imp_left (.tail _)

theorem withoutFinalBreak_append_break (text : List Char) :
    withoutFinalBreak (text ++ ['\n']) = text := by
  induction text with
  | nil => rfl
  | cons character rest induction =>
      rw [List.cons_append, withoutFinalBreak, induction]
      exact fun _ ended => List.append_ne_nil_of_right_ne_nil rest (List.cons_ne_nil _ _) ended

theorem withoutFinalBreak_of_not_mem {text : List Char} (absent : '\n' ∉ text) :
    withoutFinalBreak text = text := by
  fun_induction withoutFinalBreak text with
  | case1 => rfl
  | case2 => exact absurd (.head _) absent
  | case3 character rest last induction =>
      rw [induction fun member => absent (.tail _ member)]

/-- A text that reads as one without line breaks is that text, or has one line break behind it. -/
theorem withoutFinalBreak_eq_iff {text whole : List Char} (absent : '\n' ∉ whole) :
    withoutFinalBreak text = whole ↔ text = whole ∨ text = whole ++ ['\n'] := by
  constructor
  · rintro rfl
    fun_induction withoutFinalBreak text with
    | case1 => exact .inl rfl
    | case2 => exact .inr rfl
    | case3 character rest last induction =>
        have ofRest := induction fun member => absent (.tail _ member)
        exact ofRest.imp (congrArg (character :: ·)) (congrArg (character :: ·))
  · rintro (rfl | rfl)
    · exact withoutFinalBreak_of_not_mem absent
    · exact withoutFinalBreak_append_break whole

theorem withLineFeeds_of_not_mem {text : List Char} (absent : '\r' ∉ text) :
    withLineFeeds text = text := by
  fun_induction withLineFeeds text with
  | case1 => rfl
  | case2 => exact absurd (.head _) absent
  | case3 => exact absurd (.head _) absent
  | case4 character rest _ _ induction => rw [induction fun member => absent (.tail _ member)]

end BucketGuard.Text
