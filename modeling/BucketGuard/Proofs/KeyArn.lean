import BucketGuard.KeyArn
import BucketGuard.Proofs.Text.Parts

namespace BucketGuard.KeyArn

/-! The name of an encryption key spells out what is read from it. The names that are read are those
of a grammar: every field is a language of its own, and none of them has a colon in it. -/

/-! ## Fields -/

/-- The fields of a name, between its colons. -/
def fields (arn : KeyArn) : List (List Char) :=
  [['a', 'r', 'n'], arn.partition, ['k', 'm', 's'], arn.region, arn.account,
    'k' :: 'e' :: 'y' :: '/' :: arn.key]

/-- A name is read where it is cut into fields of the right form. -/
theorem parse?_eq_some_iff_fields {name : String} {arn : KeyArn} :
    parse? name = some arn ↔
      Text.splitOn ':' (Text.withoutFinalBreak name.toList) = arn.fields ∧
        isPartition arn.partition ∧ isRegion arn.region ∧ isAccount arn.account ∧
          isKey arn.key := by
  constructor
  · intro parsed
    unfold parse? at parsed
    split at parsed
    · rename_i scheme partition service region account resource isCut
      split at parsed
      · split at parsed
        · rename_i key valid
          simp only [Bool.and_eq_true, decide_eq_true_eq] at valid
          rcases valid with ⟨⟨⟨⟨⟨rfl, isPartition⟩, rfl⟩, isRegion⟩, isAccount⟩, isKey⟩
          cases parsed
          exact ⟨isCut, isPartition, isRegion, isAccount, isKey⟩
        · contradiction
      · contradiction
    · contradiction
  · rintro ⟨isCut, isPartition, isRegion, isAccount, isKey⟩
    rw [parse?, isCut]
    simp only [fields, isPartition, isRegion, isAccount, isKey, decide_true, Bool.and_true, if_true]

/-- The fields that a name is cut into are those that it was read as. -/
theorem parse?_fields {name : String} {arn : KeyArn} (parsed : parse? name = some arn) :
    Text.splitOn ':' (Text.withoutFinalBreak name.toList) = arn.fields :=
  (parse?_eq_some_iff_fields.mp parsed).1

/-- The partition is the text between the scheme and the service. -/
theorem parse?_partition {name : String} {arn : KeyArn} (parsed : parse? name = some arn) :
    ∃ rest, name = "arn:" ++ String.ofList arn.partition ++ ":kms:" ++ rest ∧
      ':' ∉ arn.partition := by
  have isCut := parse?_fields parsed
  rcases Text.withoutFinalBreak_append name.toList with ⟨tail, whole⟩
  rw [← Text.intercalate_splitOn ':' (Text.withoutFinalBreak name.toList), isCut, fields] at whole
  refine ⟨String.ofList ([':'].intercalate
    [arn.region, arn.account, 'k' :: 'e' :: 'y' :: '/' :: arn.key] ++ tail), ?_, ?_⟩
  · rw [← String.toList_inj, whole]
    simp [List.intercalate_cons_cons]
  · apply Text.not_mem_of_mem_splitOn
    rw [isCut, fields]
    exact List.mem_cons_of_mem _ (List.mem_cons_self ..)

/-! ## The language of each field -/

/-- The word `aws` and any number of words of lower-case letters, each behind a hyphen. -/
def PartitionForm (partition : List Char) : Prop :=
  ∃ words : List (List Char), partition = ['a', 'w', 's'] ++ words.flatMap ('-' :: ·) ∧
    ∀ word ∈ words, word ≠ [] ∧ ∀ letter ∈ word, Text.isLowerLetter letter

def RegionForm (region : List Char) : Prop :=
  region ≠ [] ∧ ∀ character ∈ region, Text.isNameCharacter character

/-- The mark of a key of several regions and a word, or the words of a unique identifier. -/
def KeyForm (key : List Char) : Prop :=
  (∃ word, key = ['m', 'r', 'k', '-'] ++ word ∧ word.length = 32 ∧
      ∀ digit ∈ word, Text.isLowerHexadecimal digit) ∨
    ∃ words, key = ['-'].intercalate words ∧ words.map List.length = [8, 4, 4, 4, 12] ∧
      ∀ word ∈ words, ∀ digit ∈ word, Text.isLowerHexadecimal digit

/-- Every field has its form, where the account is made of digits of some class. -/
structure Formed (isDigit : Char → Bool) (arn : KeyArn) : Prop where
  partition : PartitionForm arn.partition
  region : RegionForm arn.region
  account : arn.account.length = 12 ∧ ∀ digit ∈ arn.account, isDigit digit
  key : KeyForm arn.key

private theorem not_mem_of_holds {holds : Char → Bool} {text : List Char} {character : Char}
    (all : ∀ other ∈ text, holds other) (fails : holds character = false) : character ∉ text :=
  fun member => Bool.eq_false_iff.mp fails (all character member)

private theorem intercalate_eq_flatMap (separator : Char) (first : List Char)
    (words : List (List Char)) :
    [separator].intercalate (first :: words) = first ++ words.flatMap (separator :: ·) := by
  induction words generalizing first with
  | nil => rw [List.intercalate_singleton, List.flatMap_nil, List.append_nil]
  | cons word rest induction =>
      rw [List.intercalate_cons_cons, induction, List.flatMap_cons, List.append_assoc]
      rfl

theorem isPartition_iff {partition : List Char} :
    isPartition partition ↔ PartitionForm partition := by
  constructor
  · intro isPartition
    have whole := Text.intercalate_splitOn '-' partition
    rw [KeyArn.isPartition] at isPartition
    cases isCut : Text.splitOn '-' partition with
    | nil => exact absurd isCut (Text.splitOn_ne_nil '-' partition)
    | cons first words =>
        rw [isCut] at isPartition whole
        simp only [Bool.and_eq_true, decide_eq_true_eq, List.all_eq_true, Bool.not_eq_true',
          List.isEmpty_eq_false_iff] at isPartition
        rcases isPartition with ⟨rfl, areWords⟩
        exact ⟨words, by rw [← whole, intercalate_eq_flatMap], areWords⟩
  · rintro ⟨words, rfl, areWords⟩
    have absent : ∀ word ∈ ['a', 'w', 's'] :: words, '-' ∉ word :=
      List.forall_mem_cons.mpr ⟨by decide, fun word member =>
        not_mem_of_holds (areWords word member).2 (by decide)⟩
    rw [← intercalate_eq_flatMap, isPartition, Text.splitOn_intercalate absent]
    simpa using areWords

theorem isRegion_iff {region : List Char} : isRegion region ↔ RegionForm region := by
  simp [isRegion, RegionForm]

theorem isAccount_iff {account : List Char} :
    isAccount account ↔ account.length = 12 ∧ ∀ digit ∈ account, Text.isDecimalDigit digit := by
  simp [isAccount]

theorem isKey_iff {key : List Char} : isKey key ↔ KeyForm key := by
  constructor
  · intro isKey
    have whole := Text.intercalate_splitOn '-' key
    rw [KeyArn.isKey] at isKey
    split at isKey
    next mark word isCut =>
      simp only [Bool.and_eq_true, decide_eq_true_eq, List.all_eq_true] at isKey
      rcases isKey with ⟨⟨rfl, length⟩, digits⟩
      exact .inl ⟨word, by rw [← whole, isCut, intercalate_eq_flatMap]; simp, length, digits⟩
    next =>
      simp only [Bool.and_eq_true, decide_eq_true_eq, List.all_eq_true] at isKey
      exact .inr ⟨_, whole.symm, isKey.1, isKey.2⟩
  · rintro (⟨word, rfl, length, digits⟩ | ⟨words, rfl, lengths, digits⟩)
    · have absent : ∀ part ∈ [['m', 'r', 'k'], word], '-' ∉ part :=
        List.forall_mem_cons.mpr ⟨by decide,
          List.forall_mem_singleton.mpr (not_mem_of_holds digits (by decide))⟩
      have isCut := Text.splitOn_intercalate absent
      rw [intercalate_eq_flatMap, List.flatMap_singleton] at isCut
      change Text.splitOn '-' (['m', 'r', 'k', '-'] ++ word) = _ at isCut
      rw [isKey, isCut]
      simpa [length] using digits
    · cases words with
      | nil => contradiction
      | cons first rest =>
          have absent : ∀ word ∈ first :: rest, '-' ∉ word := fun word member =>
            not_mem_of_holds (digits word member) (by decide)
          rw [isKey, Text.splitOn_intercalate absent]
          split
          next mark word equal =>
            rw [equal] at lengths
            simp at lengths
          next => simpa [lengths] using digits

/-! ## Names -/

/-- The name that spells out the fields. -/
def spelled (arn : KeyArn) : String :=
  "arn:" ++ String.ofList arn.partition ++ ":kms:" ++ String.ofList arn.region ++ ":" ++
    String.ofList arn.account ++ ":key/" ++ String.ofList arn.key

theorem toList_spelled (arn : KeyArn) : arn.spelled.toList = [':'].intercalate arn.fields := by
  simp [spelled, fields, List.intercalate_cons_cons]

private theorem PartitionForm.characters {partition : List Char}
    (form : PartitionForm partition) : ∀ character ∈ partition, Text.isNameCharacter character := by
  rcases form with ⟨words, rfl, areWords⟩
  intro character member
  rcases List.mem_append.mp member with isFirst | isLater
  · exact List.all_eq_true.mp (by decide : ['a', 'w', 's'].all Text.isNameCharacter) _ isFirst
  · rcases List.mem_flatMap.mp isLater with ⟨word, isWord, inWord⟩
    rcases List.mem_cons.mp inWord with rfl | isLetter
    · decide
    · have letter := (areWords word isWord).2 character isLetter
      simp [Text.isNameCharacter, letter]

private theorem isNameCharacter_of_isLowerHexadecimal {character : Char}
    (isDigit : Text.isLowerHexadecimal character) : Text.isNameCharacter character := by
  simp only [Text.isLowerHexadecimal, Text.isNameCharacter, Text.isLowerLetter, Bool.or_eq_true,
    Bool.and_eq_true, decide_eq_true_eq] at isDigit ⊢
  rcases isDigit with decimal | ⟨lower, upper⟩
  · exact .inl (.inr decimal)
  · exact .inl (.inl ⟨lower, Char.le_trans upper (by decide)⟩)

private theorem KeyForm.characters {key : List Char} (form : KeyForm key) :
    ∀ character ∈ key, Text.isNameCharacter character := by
  intro character member
  rcases form with ⟨word, rfl, -, digits⟩ | ⟨words, rfl, lengths, digits⟩
  · rcases List.mem_append.mp member with isMark | isDigit
    · exact List.all_eq_true.mp (by decide : ['m', 'r', 'k', '-'].all Text.isNameCharacter) _ isMark
    · exact isNameCharacter_of_isLowerHexadecimal (digits character isDigit)
  · cases words with
    | nil => contradiction
    | cons first rest =>
        rw [intercalate_eq_flatMap, List.mem_append, List.mem_flatMap] at member
        rcases member with inFirst | ⟨word, isWord, inWord⟩
        · exact isNameCharacter_of_isLowerHexadecimal (digits first (.head _) character inFirst)
        · rcases List.mem_cons.mp inWord with rfl | isDigit
          · decide
          · exact isNameCharacter_of_isLowerHexadecimal
              (digits word (.tail _ isWord) character isDigit)

/-- A character of no field of any name. -/
private theorem Formed.not_mem_fields {arn : KeyArn} (formed : arn.Formed Text.isDecimalDigit)
    {character : Char} (isNone : Text.isNameCharacter character = false)
    (isNoDigit : Text.isDecimalDigit character = false) (isNoSlash : character ≠ '/') :
    ∀ field ∈ arn.fields, character ∉ field := by
  have ofWord {word : List Char} (letters : word.all Text.isNameCharacter) : character ∉ word :=
    not_mem_of_holds (List.all_eq_true.mp letters) isNone
  have resource : character ∉ 'k' :: 'e' :: 'y' :: '/' :: arn.key := by
    have ofKey := not_mem_of_holds formed.key.characters isNone
    have ofFront := ofWord (by decide : ['k', 'e', 'y'].all Text.isNameCharacter)
    simp only [List.mem_cons, List.not_mem_nil, or_false, not_or] at ofFront ⊢
    exact ⟨ofFront.1, ofFront.2.1, ofFront.2.2, isNoSlash, ofKey⟩
  simp only [fields, List.forall_mem_cons, List.not_mem_nil, false_imp_iff, implies_true, and_true]
  exact ⟨ofWord (by decide), not_mem_of_holds formed.partition.characters isNone,
    ofWord (by decide), not_mem_of_holds formed.region.2 isNone,
    not_mem_of_holds formed.account.2 isNoDigit, resource⟩

private theorem Formed.no_break {arn : KeyArn} (formed : arn.Formed Text.isDecimalDigit) :
    '\n' ∉ arn.spelled.toList := by
  have absent : ∀ field ∈ arn.fields, '\n' ∉ field :=
    formed.not_mem_fields (by decide) (by decide) (by decide)
  rw [toList_spelled, fields, intercalate_eq_flatMap, List.mem_append, List.mem_flatMap, not_or]
  refine ⟨absent _ (.head _), ?_⟩
  rintro ⟨field, isField, inField⟩
  rcases List.mem_cons.mp inField with same | member
  · contradiction
  · exact absent field (.tail _ isField) member

/-- The names that are read spell out their fields, each of its form; a line break may follow. -/
theorem parse?_eq_some_iff {name : String} {arn : KeyArn} :
    parse? name = some arn ↔
      arn.Formed Text.isDecimalDigit ∧ (name = arn.spelled ∨ name = arn.spelled ++ "\n") := by
  have forms : (isPartition arn.partition ∧ isRegion arn.region ∧ isAccount arn.account ∧
      isKey arn.key) ↔ arn.Formed Text.isDecimalDigit := by
    rw [isPartition_iff, isRegion_iff, isAccount_iff, isKey_iff]
    exact ⟨fun ⟨partition, region, account, key⟩ => ⟨partition, region, account, key⟩,
      fun formed => ⟨formed.partition, formed.region, formed.account, formed.key⟩⟩
  rw [parse?_eq_some_iff_fields, forms, and_comm]
  refine and_congr_right fun formed => ?_
  have cut : Text.splitOn ':' (Text.withoutFinalBreak name.toList) = arn.fields ↔
      Text.withoutFinalBreak name.toList = arn.spelled.toList := by
    rw [toList_spelled]
    constructor
    · intro isCut
      rw [← isCut, Text.intercalate_splitOn]
    · intro whole
      rw [whole]
      exact Text.splitOn_intercalate
        (formed.not_mem_fields (by decide) (by decide) (by decide))
  rw [cut, Text.withoutFinalBreak_eq_iff formed.no_break, ← String.toList_inj, ← String.toList_inj,
    String.toList_append]
  rfl

end BucketGuard.KeyArn
