import BucketGuard.Proofs.Redaction.Scan
import BucketGuard.Redaction

namespace BucketGuard.Redaction

/-! What is found for one field. A field is found where its name is all that comes before the first
separator, so no two fields are found at one place, and what is found does not depend on how the text
goes on from where another name may begin. -/

-- Every character of a text, and not every character, whatever else is imported.
attribute [local instance (2000)] List.decidableBAll

/-! ## Characters of names -/

def isNameLetter (character : Char) : Bool := Text.isLowerLetter character || character = '_'

structure IsName (field : String) : Prop where
  nonempty : field.toList ≠ []
  letters : ∀ character ∈ field.toList, isNameLetter character = true

theorem isName_of_sensitive {field : String} (member : field ∈ sensitiveFields) : IsName field := by
  have names : (sensitiveFields.all fun field =>
      !field.toList.isEmpty && field.toList.all isNameLetter) = true := by
    decide
  have isName := List.all_eq_true.mp names field member
  rw [Bool.and_eq_true, Bool.not_eq_true', List.isEmpty_eq_false_iff, List.all_eq_true] at isName
  exact ⟨isName.1, isName.2⟩

/-- A letter of a name, whatever its case. -/
def isWrittenLetter (character : Char) : Bool := isNameLetter (Text.folded character)

private theorem toNat_of_isWrittenLetter {character : Char}
    (letter : isWrittenLetter character = true) :
    (65 ≤ character.toNat ∧ character.toNat ≤ 90) ∨ character.toNat = 95 ∨
      (97 ≤ character.toNat ∧ character.toNat ≤ 122) ∨
      character ∈ ['\u017f', '\u212a', '\u0131', '\u0130'] := by
  rw [isWrittenLetter, Text.folded] at letter
  split at letter
  next capital => exact .inl capital
  split at letter
  next equal => exact .inr (.inr (.inr (by simp [equal])))
  split at letter
  next equal => exact .inr (.inr (.inr (by simp [equal])))
  split at letter
  next equal => exact .inr (.inr (.inr (by rcases equal with rfl | rfl <;> simp)))
  rcases Bool.or_eq_true_iff.mp letter with lower | underscore
  · rcases (Bool.and_eq_true_iff.mp lower) with ⟨low, high⟩
    exact .inr (.inr (.inl ⟨of_decide_eq_true low, of_decide_eq_true high⟩))
  · exact .inr (.inl (congrArg Char.toNat (of_decide_eq_true underscore)))

/-- The letters of names belong to words and to values, and are no separators. -/
theorem kinds_of_isWrittenLetter {character : Char}
    (letter : isWrittenLetter character = true) :
    Text.isWord character = true ∧ isSeparator character = false ∧
      isValueCharacter character = true := by
  have inAscii : ∀ small : Nat, small < 128 →
      ((65 ≤ small ∧ small ≤ 90) ∨ small = 95 ∨ (97 ≤ small ∧ small ≤ 122)) →
        Text.isWord (Char.ofNat small) = true ∧ isSeparator (Char.ofNat small) = false ∧
          isValueCharacter (Char.ofNat small) = true := by
    decide
  have beyond : (['\u017f', '\u212a', '\u0131', '\u0130'].all fun character =>
      Text.isWord character && (!isSeparator character && isValueCharacter character)) = true := by
    decide +kernel
  rcases toNat_of_isWrittenLetter letter with upper | underscore | lower | other
  · simpa using inAscii character.toNat (by omega) (.inl upper)
  · simpa using inAscii character.toNat (by omega) (.inr (.inl underscore))
  · simpa using inAscii character.toNat (by omega) (.inr (.inr lower))
  · simpa using List.all_eq_true.mp beyond character other

private theorem folded_of_isNameLetter {character : Char}
    (letter : isNameLetter character = true) : Text.folded character = character := by
  have inAscii : ∀ small : Nat, small < 128 → isNameLetter (Char.ofNat small) = true →
      Text.folded (Char.ofNat small) = Char.ofNat small := by
    decide
  have bound : character.toNat < 128 := by
    rcases Bool.or_eq_true_iff.mp letter with lower | underscore
    · have high : character.toNat ≤ 122 :=
        of_decide_eq_true (Bool.and_eq_true_iff.mp lower).2
      omega
    · rw [of_decide_eq_true underscore]
      decide
  simpa using inAscii character.toNat bound (by simpa using letter)

theorem isWrittenLetter_of_isNameLetter {character : Char}
    (letter : isNameLetter character = true) : isWrittenLetter character = true := by
  rw [isWrittenLetter, folded_of_isNameLetter letter, letter]

theorem IsName.map_folded {field : String} (isName : IsName field) :
    field.toList.map Text.folded = field.toList := by
  rw [List.map_congr_left fun character member =>
    folded_of_isNameLetter (isName.letters character member), List.map_id']

/-! ## What a name announces -/

/-- A name may begin with the first character. -/
def BeginsName : List Char → Prop
  | [] => False
  | character :: _ => isWrittenLetter character = true

/-- What counts as announced where no value follows the separators. -/
private def lastColon? (separators : List Char) : Option Nat :=
  match separators.tail.reverse.dropWhile (· ≠ ':') with
  | [] => none
  | kept => some (kept.length + 1)

/-- The characters behind some separators that are no separators themselves. -/
private def EndsSeparators (rest : List Char) : Prop :=
  ∀ character ∈ rest.head?, isSeparator character = false

private theorem announcedLength?_append {separator : Char} {separators rest : List Char}
    (all : ∀ character ∈ separator :: separators, isSeparator character = true)
    (ends : EndsSeparators rest) :
    announcedLength? (separator :: separators ++ rest) =
      if (rest.takeWhile isValueCharacter).isEmpty then lastColon? (separator :: separators)
      else some (separators.length + 1 + (rest.takeWhile isValueCharacter).length) := by
  have first : (separator :: separators ++ rest).takeWhile isSeparator =
      separator :: separators := by
    rw [List.takeWhile_append_of_pos all]
    cases rest with
    | nil => rw [List.takeWhile_nil, List.append_nil]
    | cons character rest =>
        rw [List.takeWhile_cons_of_neg (by simp [ends character rfl]), List.append_nil]
  simp only [announcedLength?, first, List.drop_left]
  cases (rest.takeWhile isValueCharacter).isEmpty <;> rfl

theorem BeginsName.append {first : List Char} (begins : BeginsName first) (second : List Char) :
    BeginsName (first ++ second) := by
  cases first with
  | nil => exact begins.elim
  | cons character first => exact begins

private theorem announcedLength?_of_endsSeparators {text : List Char} (ends : EndsSeparators text) :
    announcedLength? text = none := by
  cases text with
  | nil => rfl
  | cons character rest =>
      rw [announcedLength?, List.takeWhile_cons_of_neg (by simp [ends character rfl])]
      rfl

/-- A text cut behind its first separators. -/
private theorem exists_separators (text : List Char) :
    ∃ separators rest, text = separators ++ rest ∧
      (∀ character ∈ separators, isSeparator character = true) ∧ EndsSeparators rest := by
  refine ⟨text.takeWhile isSeparator, text.dropWhile isSeparator,
    List.takeWhile_append_dropWhile.symm, List.all_eq_true.mp List.all_takeWhile,
    fun character member => ?_⟩
  have stops := List.head?_dropWhile_not isSeparator text
  rw [Option.mem_def.mp member] at stops
  exact stops

theorem BeginsName.endsSeparators_append {second : List Char} (begins : BeginsName second)
    {first : List Char} (ends : EndsSeparators first) : EndsSeparators (first ++ second) := by
  cases first with
  | cons character rest => exact ends
  | nil =>
      cases second with
      | nil => exact begins.elim
      | cons character rest =>
          intro head member
          cases member
          exact (kinds_of_isWrittenLetter begins).2.1

private theorem BeginsName.takeWhile_append {second : List Char} (begins : BeginsName second)
    {first : List Char} (reaches : (first.takeWhile isValueCharacter).length = first.length) :
    ∃ character rest, (first ++ second).takeWhile isValueCharacter = first ++ character :: rest := by
  rw [List.takeWhile_append, if_pos reaches]
  cases second with
  | nil => exact begins.elim
  | cons character rest =>
      rw [List.takeWhile_cons_of_pos (kinds_of_isWrittenLetter begins).2.2]
      exact ⟨character, _, rfl⟩

/-- What is announced at the start of a text does not depend on how the text goes on from where a
name may begin, unless the announced value goes on there itself. -/
private theorem announcedLength?_of_beginsName (first : List Char) {second other : List Char}
    (begins : BeginsName second) (otherBegins : BeginsName other) :
    announcedLength? (first ++ second) = announcedLength? (first ++ other) ∨
      (∃ length > first.length, announcedLength? (first ++ second) = some length) ∧
        ∃ length > first.length, announcedLength? (first ++ other) = some length := by
  rcases exists_separators first with ⟨separators, rest, rfl, all, ends⟩
  cases separators with
  | nil =>
      left
      rw [List.nil_append, announcedLength?_of_endsSeparators (begins.endsSeparators_append ends),
        announcedLength?_of_endsSeparators (otherBegins.endsSeparators_append ends)]
  | cons separator separators =>
      rw [List.append_assoc, List.append_assoc,
        announcedLength?_append all (begins.endsSeparators_append ends),
        announcedLength?_append all (otherBegins.endsSeparators_append ends)]
      -- The value reaches the second part only if no character of the rest ends it.
      by_cases reaches : (rest.takeWhile isValueCharacter).length = rest.length
      · right
        rcases begins.takeWhile_append reaches with ⟨character, more, equal⟩
        rcases otherBegins.takeWhile_append reaches with ⟨otherCharacter, otherMore, otherEqual⟩
        rw [equal, otherEqual]
        constructor
        · refine ⟨separators.length + 1 + (rest ++ character :: more).length, ?_, by simp⟩
          simp only [List.length_append, List.length_cons]
          omega
        · refine ⟨separators.length + 1 + (rest ++ otherCharacter :: otherMore).length, ?_, by simp⟩
          simp only [List.length_append, List.length_cons]
          omega
      · left
        rw [List.takeWhile_append, List.takeWhile_append, if_neg reaches, if_neg reaches]

/-- Behind what is announced the text is at its end, or a character follows that cannot belong to a
value. -/
def IsQuiet (text : List Char) : Prop :=
  ∀ character ∈ text.head?, isValueCharacter character = false

private theorem lastColon?_append {separator : Char} {first blanks : List Char}
    (noColon : ':' ∉ blanks) :
    lastColon? (separator :: (first ++ ':' :: blanks)) = some (first.length + 2) := by
  have passed : ∀ character ∈ blanks.reverse, decide (character ≠ ':') = true := by
    intro character member
    refine decide_eq_true fun equal => noColon ?_
    rw [← equal]
    exact List.mem_reverse.mp member
  have kept : (first ++ ':' :: blanks).reverse.dropWhile (· ≠ ':') = ':' :: first.reverse := by
    rw [List.reverse_append, List.reverse_cons, List.append_assoc,
      List.dropWhile_append_of_pos passed]
    rfl
  simp only [lastColon?, List.tail_cons, kept, List.length_cons, List.length_reverse]

private theorem exists_last_colon {separators : List Char} (member : ':' ∈ separators) :
    ∃ first blanks, separators = first ++ ':' :: blanks ∧ ':' ∉ blanks := by
  rcases List.eq_append_cons_of_mem (List.mem_reverse.mpr member) with
    ⟨blanks, first, cut, noColon⟩
  refine ⟨first.reverse, blanks.reverse, ?_, by simpa using noColon⟩
  rw [← List.reverse_inj, cut]
  simp

private theorem exists_cut_of_lastColon? {separator : Char} {separators : List Char} {length : Nat}
    (found : lastColon? (separator :: separators) = some length) :
    ∃ first blanks, separators = first ++ ':' :: blanks ∧ ':' ∉ blanks ∧
      length = first.length + 2 := by
  by_cases member : ':' ∈ separators
  · rcases exists_last_colon member with ⟨first, blanks, rfl, noColon⟩
    rw [lastColon?_append noColon] at found
    exact ⟨first, blanks, rfl, noColon, (Option.some.inj found).symm⟩
  · have kept : separators.reverse.dropWhile (· ≠ ':') = [] := by
      rw [← List.append_nil separators.reverse, List.dropWhile_append_of_pos]
      · rfl
      · intro character inside
        refine decide_eq_true fun equal => member ?_
        rw [← equal]
        exact List.mem_reverse.mp inside
    simp only [lastColon?, List.tail_cons, kept] at found
    contradiction

private theorem lastColon?_eq_some {separator : Char} {separators : List Char} {length : Nat}
    (all : ∀ character ∈ separators, isSeparator character = true)
    (found : lastColon? (separator :: separators) = some length) :
    length ≤ separators.length + 1 ∧
      ∀ character ∈ (separator :: separators).drop length, isValueCharacter character = false := by
  rcases exists_cut_of_lastColon? found with ⟨first, blanks, rfl, noColon, rfl⟩
  constructor
  · simp only [List.length_append, List.length_cons]
    omega
  · have behind : (separator :: (first ++ ':' :: blanks)).drop (first.length + 2) = blanks := by
      simp
    rw [behind]
    intro character member
    have isSeparator := all character (by simp [member])
    have different : character ≠ ':' := fun equal => noColon (equal ▸ member)
    simp_all [Redaction.isSeparator, isValueCharacter]

/-- A name announces something, no more than there is, and all of it up to where a value ends. -/
theorem isQuiet_of_announcedLength? {text : List Char} {length : Nat}
    (announced : announcedLength? text = some length) :
    length ≤ text.length ∧ IsQuiet (text.drop length) := by
  rcases exists_separators text with ⟨separators, rest, rfl, all, ends⟩
  cases separators with
  | nil => simp [announcedLength?_of_endsSeparators ends] at announced
  | cons separator separators =>
      have quiet : IsQuiet (rest.dropWhile isValueCharacter) := by
        intro character member
        have stops := List.head?_dropWhile_not isValueCharacter rest
        rw [Option.mem_def.mp member] at stops
        exact stops
      have cut : rest.takeWhile isValueCharacter ++ rest.dropWhile isValueCharacter = rest :=
        List.takeWhile_append_dropWhile
      rw [announcedLength?_append all ends] at announced
      split at announced
      next isEmpty =>
        rw [List.isEmpty_iff.mp isEmpty, List.nil_append] at cut
        rw [cut] at quiet
        rcases lastColon?_eq_some (fun character member => all character (.tail _ member)) announced
          with ⟨enough, blanks⟩
        constructor
        · simp only [List.length_append, List.length_cons]
          omega
        · rw [List.drop_append_of_le_length enough]
          cases remaining : (separator :: separators).drop length with
          | nil => exact quiet
          | cons character more =>
              intro head member
              cases member
              exact blanks character (remaining ▸ .head _)
      next =>
        cases announced
        have lengths := congrArg List.length cut
        rw [List.length_append] at lengths
        constructor
        · simp only [List.length_append, List.length_cons]
          omega
        · have whole : separator :: separators ++ rest =
              (separator :: separators ++ rest.takeWhile isValueCharacter) ++
                rest.dropWhile isValueCharacter := by
            rw [List.append_assoc, cut]
          rw [whole, List.drop_left' (by simp only [List.length_append, List.length_cons])]
          exact quiet

/-- Some separators and a value behind them. -/
def IsAnnouncement (text : List Char) : Prop :=
  ∃ separators value, text = separators ++ value ∧
    separators ≠ [] ∧ (∀ character ∈ separators, isSeparator character = true) ∧
    value ≠ [] ∧ ∀ character ∈ value, isValueCharacter character = true

theorem isAnnouncement_of_announcedLength? {text : List Char} {length : Nat}
    (announced : announcedLength? text = some length) : IsAnnouncement (text.take length) := by
  rcases exists_separators text with ⟨separators, rest, rfl, all, ends⟩
  cases separators with
  | nil => simp [announcedLength?_of_endsSeparators ends] at announced
  | cons separator separators =>
      rw [announcedLength?_append all ends] at announced
      split at announced
      next =>
        rcases exists_cut_of_lastColon? announced with ⟨first, blanks, rfl, -, rfl⟩
        have whole : separator :: (first ++ ':' :: blanks) ++ rest =
            separator :: first ++ [':'] ++ (blanks ++ rest) := by
          simp
        refine ⟨separator :: first, [':'], ?_, List.cons_ne_nil separator first,
          fun character member => all character ?_, List.cons_ne_nil ':' [], by decide⟩
        · rw [whole, List.take_left' (by simp)]
        · exact List.mem_append_left _ member
      next isEmpty =>
        cases announced
        have size : separators.length + 1 + (rest.takeWhile isValueCharacter).length =
            (separator :: separators ++ rest.takeWhile isValueCharacter).length := by
          rw [List.length_append, List.length_cons]
        refine ⟨separator :: separators, rest.takeWhile isValueCharacter, ?_,
          List.cons_ne_nil separator separators, all, by simpa using isEmpty,
          List.all_eq_true.mp List.all_takeWhile⟩
        have whole : separator :: separators ++ rest =
            (separator :: separators ++ rest.takeWhile isValueCharacter) ++
              rest.dropWhile isValueCharacter := by
          rw [List.append_assoc, List.takeWhile_append_dropWhile]
        rw [size, whole, List.take_left]

/-- Of the separators only a colon may belong to a value. -/
private theorem eq_colon_of_isValueCharacter {character : Char}
    (isValue : isValueCharacter character = true) (separates : isSeparator character = true) :
    character = ':' := by
  simp only [isSeparator, isValueCharacter, Bool.or_eq_true] at separates isValue
  rcases separates with equal | blank
  · exact of_decide_eq_true equal
  · simp [blank] at isValue

/-- Where an announcement begins a text, something counts as announced. -/
theorem announcedLength?_ne_none {text : List Char} (announcement : IsAnnouncement text)
    (rest : List Char) : announcedLength? (text ++ rest) ≠ none := by
  rcases announcement with ⟨separators, value, rfl, nonempty, separates, valueNonempty, allValue⟩
  rcases exists_separators (value ++ rest) with ⟨more, behind, cut, moreSeparate, ends⟩
  rw [List.append_assoc, cut]
  cases separators with
  | nil => contradiction
  | cons separator separators =>
      have all : ∀ character ∈ separator :: (separators ++ more), isSeparator character = true := by
        rw [← List.cons_append]
        intro character member
        rcases List.mem_append.mp member with member | member
        · exact separates character member
        · exact moreSeparate character member
      rw [← List.append_assoc, List.cons_append, announcedLength?_append all ends]
      split
      next isEmpty =>
        cases value with
        | nil => contradiction
        | cons character value =>
            have isValue := allValue character (.head _)
            cases more with
            | nil =>
                rw [List.nil_append] at cut
                rw [← cut, List.cons_append, List.takeWhile_cons_of_pos isValue] at isEmpty
                contradiction
            | cons head more =>
                -- The value begins among the separators, so it begins with a colon.
                rcases List.cons.inj cut with ⟨rfl, -⟩
                have isColon := eq_colon_of_isValueCharacter isValue (moreSeparate character (.head _))
                have member : ':' ∈ separators ++ character :: more := by simp [isColon]
                rcases exists_last_colon member with ⟨first, blanks, whole, noColon⟩
                rw [whole, lastColon?_append noColon]
                exact Option.some_ne_none _
      next => exact Option.some_ne_none _

/-! ## The findings for a field -/

theorem afterWord?_eq_some_iff {word text rest : List Char} :
    Text.afterWord? word text = some rest ↔
      ∃ written, text = written ++ rest ∧ written.map Text.folded = word := by
  induction word generalizing text with
  | nil => simp [Text.afterWord?, eq_comm]
  | cons letter word induction =>
      cases text with
      | nil => simp [Text.afterWord?]
      | cons character text =>
          rw [Text.afterWord?]
          split
          next equal =>
            rw [induction]
            constructor
            · rintro ⟨written, rfl, rfl⟩
              exact ⟨character :: written, rfl, by rw [List.map_cons, equal]⟩
            · rintro ⟨written, whole, folds⟩
              cases written with
              | nil => contradiction
              | cons head written =>
                  cases whole
                  exact ⟨written, rfl, (List.cons.inj folds).2⟩
          next different =>
            refine ⟨nofun, ?_⟩
            rintro ⟨written, whole, folds⟩
            cases written with
            | nil => contradiction
            | cons head written =>
                cases whole
                exact absurd (List.cons.inj folds).1 different

variable {field : String} {before : Option Char} {text : List Char} {finding : Finding}

theorem findField_eq_some_iff :
    findField field before text = some finding ↔
      atWordStart before = true ∧ ∃ written rest announced, text = written ++ rest ∧
        written.map Text.folded = field.toList ∧ announcedLength? rest = some announced ∧
        finding = {
          length := written.length + announced
          replacement := field.toList ++ [':', ' '] ++ mark.toList } := by
  rw [findField]
  split
  next starts =>
    constructor
    · intro found
      rcases Option.bind_eq_some_iff.mp found with ⟨rest, behind, found⟩
      rcases Option.bind_eq_some_iff.mp found with ⟨announced, announces, equal⟩
      rcases afterWord?_eq_some_iff.mp behind with ⟨written, rfl, folds⟩
      have lengths : written.length = field.length := by
        rw [← String.length_toList, ← folds, List.length_map]
      cases equal
      exact ⟨starts, written, rest, announced, rfl, folds, announces, by rw [lengths]⟩
    · rintro ⟨-, written, rest, announced, rfl, folds, announces, rfl⟩
      have lengths : written.length = field.length := by
        rw [← String.length_toList, ← folds, List.length_map]
      rw [afterWord?_eq_some_iff.mpr ⟨written, rfl, folds⟩]
      simp [announces, lengths]
  next no => exact ⟨nofun, fun both => absurd both.1 no⟩

theorem replacement_of_found (found : findField field before text = some finding) :
    finding.replacement = field.toList ++ [':', ' '] ++ mark.toList := by
  rcases findField_eq_some_iff.mp found with ⟨-, -, -, -, -, -, -, rfl⟩
  rfl

theorem IsName.isSound (isName : IsName field) : (findField field).IsSound := by
  intro before text finding found
  rcases findField_eq_some_iff.mp found with
    ⟨-, written, rest, announced, rfl, folds, announces, rfl⟩
  have enough := (isQuiet_of_announcedLength? announces).1
  have positive : written ≠ [] := by
    rintro rfl
    exact isName.nonempty folds.symm
  have := List.length_pos_iff.mpr positive
  simp only [List.length_append]
  omega

theorem IsName.allWritten (isName : IsName field) {written : List Char}
    (folds : written.map Text.folded = field.toList) :
    ∀ character ∈ written, isWrittenLetter character = true := fun _ member =>
  isName.letters _ (folds ▸ List.mem_map_of_mem member)

/-- Where a field is found, a word of letters begins. -/
theorem IsName.begins_of_found (isName : IsName field)
    (found : findField field before text = some finding) :
    atWordStart before = true ∧ BeginsName text ∧ BeginsName finding.replacement ∧
      IsQuiet (text.drop finding.length) := by
  rcases findField_eq_some_iff.mp found with
    ⟨starts, written, rest, announced, rfl, folds, announces, rfl⟩
  refine ⟨starts, ?_, ?_, ?_⟩
  · cases written with
    | nil => exact absurd folds.symm isName.nonempty
    | cons character written => exact isName.allWritten folds character (.head _)
  · cases equal : field.toList with
    | nil => exact absurd equal isName.nonempty
    | cons character letters =>
        exact isWrittenLetter_of_isNameLetter (isName.letters character (equal ▸ .head _))
  · rw [List.drop_append, List.drop_of_length_le (Nat.le_add_right ..), List.nil_append,
      Nat.add_sub_cancel_left]
    exact (isQuiet_of_announcedLength? announces).2

private theorem exists_separator {rest : List Char} {announced : Nat}
    (announces : announcedLength? rest = some announced) :
    ∃ separator more, rest = separator :: more ∧ isSeparator separator = true := by
  cases rest with
  | nil => contradiction
  | cons separator more =>
      refine ⟨separator, more, rfl, ?_⟩
      cases kind : isSeparator separator with
      | true => rfl
      | false =>
          have ends : EndsSeparators (separator :: more) := by
            intro character member
            cases member
            exact kind
          rw [announcedLength?_of_endsSeparators ends] at announces
          contradiction

private theorem IsName.takeWhile_eq (isName : IsName field) {written rest : List Char}
    {separator : Char} (folds : written.map Text.folded = field.toList)
    (isSeparator : isSeparator separator = true) :
    (written ++ separator :: rest).takeWhile (fun character => !Redaction.isSeparator character) =
      written := by
  rw [List.takeWhile_append_of_pos, List.takeWhile_cons_of_neg (by simp [isSeparator]),
    List.append_nil]
  intro character member
  rw [(kinds_of_isWrittenLetter (isName.allWritten folds character member)).2.1]
  rfl

/-- A field is found where its name is all that comes before the first separator. -/
theorem IsName.takeWhile_of_found (isName : IsName field)
    (found : findField field before text = some finding) :
    (text.takeWhile fun character => !isSeparator character).map Text.folded = field.toList := by
  rcases findField_eq_some_iff.mp found with
    ⟨-, written, rest, announced, rfl, folds, announces, -⟩
  rcases exists_separator announces with ⟨separator, more, rfl, isSeparator⟩
  rw [isName.takeWhile_eq folds isSeparator, folds]

/-- No two fields are found at the same place. -/
theorem eq_of_found {other : String} {otherFinding : Finding} (isName : IsName field)
    (otherName : IsName other) (found : findField field before text = some finding)
    (otherFound : findField other before text = some otherFinding) : field = other := by
  rw [← String.toList_inj, ← isName.takeWhile_of_found found,
    otherName.takeWhile_of_found otherFound]

private theorem IsName.afterWord?_append (isName : IsName field) {first : List Char}
    (nonempty : first ≠ []) (ends : atWordStart (Finder.lastOf before first) = true)
    (second : List Char) :
    Text.afterWord? field.toList (first ++ second) =
      (Text.afterWord? field.toList first).map (· ++ second) := by
  cases inFirst : Text.afterWord? field.toList first with
  | some rest =>
      rcases afterWord?_eq_some_iff.mp inFirst with ⟨written, rfl, folds⟩
      exact afterWord?_eq_some_iff.mpr ⟨written, List.append_assoc .., folds⟩
  | none =>
      cases found : Text.afterWord? field.toList (first ++ second) with
      | none => rfl
      | some rest =>
          rcases afterWord?_eq_some_iff.mp found with ⟨written, whole, folds⟩
          rcases List.append_eq_append_iff.mp whole with ⟨more, rfl, -⟩ | ⟨more, rfl, -⟩
          · -- The name would go on behind the first part, whose last character ends a word.
            have letter := isName.allWritten folds (first.getLast nonempty)
              (List.mem_append_left _ (List.getLast_mem nonempty))
            rw [Finder.lastOf, List.getLast?_eq_some_getLast nonempty, Option.some_or, atWordStart,
              Option.any_some, (kinds_of_isWrittenLetter letter).1] at ends
            contradiction
          · rw [afterWord?_eq_some_iff.mpr ⟨written, rfl, folds⟩] at inFirst
            contradiction

/-- A finding does not depend on how the text goes on from where a name may begin, unless it reaches
beyond that place. -/
theorem IsName.found_of_beginsName (isName : IsName field) {first second other : List Char}
    (nonempty : first ≠ []) (ends : atWordStart (Finder.lastOf before first) = true)
    (begins : BeginsName second) (otherBegins : BeginsName other) :
    findField field before (first ++ second) = findField field before (first ++ other) ∨
      (∃ finding, findField field before (first ++ second) = some finding ∧
        first.length < finding.length) ∧
      ∃ finding, findField field before (first ++ other) = some finding ∧
        first.length < finding.length := by
  cases starts : atWordStart before with
  | false => exact .inl (by simp [findField, starts])
  | true =>
      cases inFirst : Text.afterWord? field.toList first with
      | none =>
          left
          rw [findField, findField, isName.afterWord?_append nonempty ends,
            isName.afterWord?_append nonempty ends, inFirst]
          rfl
      | some rest =>
          rcases announcedLength?_of_beginsName rest begins otherBegins with
            equal | ⟨⟨length, beyond, announces⟩, otherLength, otherBeyond, otherAnnounces⟩
          · left
            rw [findField, findField, isName.afterWord?_append nonempty ends,
              isName.afterWord?_append nonempty ends, inFirst]
            simp [equal]
          · right
            rcases afterWord?_eq_some_iff.mp inFirst with ⟨written, rfl, folds⟩
            constructor
            · refine ⟨_, findField_eq_some_iff.mpr ⟨starts, written, rest ++ second, length,
                List.append_assoc .., folds, announces, rfl⟩, ?_⟩
              simp only [List.length_append]
              omega
            · refine ⟨_, findField_eq_some_iff.mpr ⟨starts, written, rest ++ other, otherLength,
                List.append_assoc .., folds, otherAnnounces, rfl⟩, ?_⟩
              simp only [List.length_append]
              omega

/-- Whether a field is passed over does not depend on which name begins behind the passage. -/
theorem IsName.passes_of_beginsName (isName : IsName field) {first second other : List Char}
    (ends : atWordStart (Finder.lastOf before first) = true)
    (begins : BeginsName second) (otherBegins : BeginsName other)
    (passes : (findField field).Passes before first second) :
    (findField field).Passes before first other := by
  induction first generalizing before with
  | nil => trivial
  | cons character rest induction =>
      rcases passes with ⟨none, passes⟩
      refine ⟨?_, induction (by rwa [Finder.lastOf_cons] at ends) passes⟩
      rcases isName.found_of_beginsName (List.cons_ne_nil character rest) ends begins otherBegins
        with equal | ⟨⟨finding, found, -⟩, -⟩
      · exact equal.symm.trans none
      · exact absurd (found.symm.trans none) (Option.some_ne_none _)

/-! ## Passing over what is written for a field -/

/-- Nothing is found but where a name may begin. -/
def AtNames (find : Finder) : Prop :=
  ∀ before text finding, find before text = some finding → BeginsName text

theorem IsName.atNames (isName : IsName field) : AtNames (findField field) :=
  fun _ _ _ found => (isName.begins_of_found found).2.1

theorem AtNames.eq_none {find : Finder} (atNames : AtNames find) {before : Option Char}
    {text : List Char} (noName : ¬BeginsName text) : find before text = none := by
  cases found : find before text with
  | none => rfl
  | some finding => exact absurd (atNames _ _ _ found) noName

theorem IsQuiet.not_beginsName (quiet : IsQuiet text) : ¬BeginsName text := by
  cases text with
  | nil => exact id
  | cons character rest =>
      intro letter
      exact Bool.noConfusion ((quiet character rfl).symm.trans (kinds_of_isWrittenLetter letter).2.2)

/-- In front of a quiet text it does not matter which character comes before. -/
theorem AtNames.replaceFrom_of_isQuiet {find : Finder} (atNames : AtNames find)
    (quiet : IsQuiet text) (before other : Option Char) :
    find.replaceFrom before 0 text = find.replaceFrom other 0 text ∧
      IsQuiet (find.replaceFrom before 0 text) := by
  cases text with
  | nil => exact ⟨rfl, quiet⟩
  | cons character rest =>
      rw [Finder.replaceFrom_of_none (atNames.eq_none quiet.not_beginsName),
        Finder.replaceFrom_of_none (atNames.eq_none quiet.not_beginsName)]
      exact ⟨rfl, quiet⟩

/-- Inside a word no field begins. -/
private theorem passes_of_isWord {letters rest : List Char} {character : Char}
    (isWord : Text.isWord character = true)
    (all : ∀ letter ∈ letters, Text.isWord letter = true) :
    (findField field).Passes (some character) letters rest := by
  induction letters generalizing character with
  | nil => trivial
  | cons letter letters induction =>
      refine ⟨?_, induction (all letter (.head _)) fun other member => all other (.tail _ member)⟩
      rw [findField, if_neg]
      simp [atWordStart, isWord]

/-- No name is a part of the mark, which is closed by a character that no name holds. -/
private theorem IsName.passes_mark (isName : IsName field) {rest : List Char}
    (letters : List Char) (all : ∀ letter ∈ letters, isSeparator letter = false) :
    (findField field).Passes before (letters ++ [']']) rest := by
  have noName : ∀ (before) (letters : List Char),
      (∀ letter ∈ letters, isSeparator letter = false) →
        findField field before (letters ++ ']' :: rest) = none := by
    intro before letters all
    cases found : findField field before (letters ++ ']' :: rest) with
    | none => rfl
    | some finding =>
        have name := isName.takeWhile_of_found found
        rw [List.takeWhile_append_of_pos (by simpa using all),
          List.takeWhile_cons_of_pos (by decide), List.map_append, List.map_cons] at name
        have member : ']' ∈ field.toList := by
          rw [← name]
          simp [show Text.folded ']' = ']' by decide]
        exact absurd (isName.letters _ member) (by decide)
  induction letters generalizing before with
  | nil => exact ⟨noName _ [] (List.forall_mem_nil _), trivial⟩
  | cons letter letters induction =>
      refine ⟨?_, induction fun other member => all other (.tail _ member)⟩
      simpa using noName before (letter :: letters) all

/-- Behind the first letter of what is written for a field, no field is found. -/
theorem IsName.passes_behind {name : String} (isName : IsName field) (otherName : IsName name)
    {letter : Char} {letters : List Char} (equal : name.toList = letter :: letters)
    (rest : List Char) :
    (findField field).Passes (some letter) (letters ++ [':', ' '] ++ mark.toList) rest := by
  have atWord : ∀ letter ∈ name.toList, Text.isWord letter = true := fun letter member =>
    (kinds_of_isWrittenLetter (isWrittenLetter_of_isNameLetter (otherName.letters _ member))).1
  refine Finder.passes_append.mpr ⟨Finder.passes_append.mpr ⟨?_, ?_⟩, ?_⟩
  · exact passes_of_isWord (atWord letter (equal ▸ .head _))
      fun other member => atWord other (equal ▸ .tail _ member)
  · have colon : ¬isWrittenLetter ':' = true := by decide
    have blank : ¬isWrittenLetter ' ' = true := by decide
    exact ⟨isName.atNames.eq_none colon, isName.atNames.eq_none blank, trivial⟩
  · have noSeparators : ("[REDACTED".toList.all fun letter => !isSeparator letter) = true := by
      decide
    exact isName.passes_mark _ fun letter member => by
      simpa using List.all_eq_true.mp noSeparators letter member

/-- Where a field is marked, no other field is found. -/
theorem IsName.passes_replacement {name : String} (isName : IsName field) (otherName : IsName name)
    (different : field ≠ name) (before : Option Char) (rest : List Char) :
    (findField field).Passes before (name.toList ++ [':', ' '] ++ mark.toList) rest := by
  cases equal : name.toList with
  | nil => exact absurd equal otherName.nonempty
  | cons letter letters =>
      refine ⟨?_, isName.passes_behind otherName equal rest⟩
      cases found : findField field before
          (letter :: (letters ++ [':', ' '] ++ mark.toList ++ rest)) with
      | none => rfl
      | some finding =>
          have own := isName.takeWhile_of_found found
          have whole : letter :: (letters ++ [':', ' '] ++ mark.toList ++ rest) =
              name.toList ++ ':' :: (' ' :: (mark.toList ++ rest)) := by
            simp [equal]
          rw [whole, otherName.takeWhile_eq otherName.map_folded (by decide),
            otherName.map_folded, String.toList_inj] at own
          exact absurd own.symm different

end BucketGuard.Redaction
