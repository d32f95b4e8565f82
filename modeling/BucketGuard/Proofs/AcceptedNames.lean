import BucketGuard.Proofs.Acceptance

namespace BucketGuard

/-! The exact languages of the two names that everything else is built on. A bucket name is accepted
if it is a word of name characters, and an encryption key if it spells out the fields of a key. A
pattern that ends at the end of a line lets one line break follow either, and its decimal digits are
those of every script. -/

/-! ## Bucket names -/

namespace BucketName

/-- Lower-case letters, digits and hyphens, with no hyphen at an end. -/
structure Formed (name : List Char) : Prop where
  characters : ∀ character ∈ name, Text.isNameCharacter character
  first : name.head? ≠ some '-'
  last : name.getLast? ≠ some '-'

theorem isEnd_iff {character : Char} :
    isEnd character ↔ Text.isNameCharacter character ∧ character ≠ '-' := by
  by_cases isHyphen : character = '-'
  · rw [isHyphen]
    decide
  · simp [isEnd, Text.isNameCharacter, isHyphen]

theorem isName_iff {name : List Char} : isName name ↔ 2 ≤ name.length ∧ Formed name := by
  match name with
  | [] => simp [isName]
  | [_] => simp [isName]
  | first :: second :: rest =>
      have isLast : (first :: second :: rest).getLast? =
          some ((second :: rest).getLast (List.cons_ne_nil _ _)) := by
        rw [List.getLast?_cons_cons, List.getLast?_eq_some_getLast]
      have lastMember := List.getLast_mem (List.cons_ne_nil second rest)
      rw [isName, Bool.and_eq_true, Bool.and_eq_true, isEnd_iff, isEnd_iff, List.all_eq_true]
      constructor
      · rintro ⟨⟨⟨firstCharacter, firstEnd⟩, characters⟩, -, lastEnd⟩
        refine ⟨Nat.le_add_left 2 rest.length, ?_, ?_, ?_⟩
        · exact List.forall_mem_cons.mpr ⟨firstCharacter, characters⟩
        · exact fun same => firstEnd (Option.some.inj same)
        · exact fun same => lastEnd (Option.some.inj (isLast.symm.trans same))
      · rintro ⟨-, characters, firstEnd, lastEnd⟩
        rcases List.forall_mem_cons.mp characters with ⟨firstCharacter, characters⟩
        exact ⟨⟨⟨firstCharacter, fun same => firstEnd (congrArg some same)⟩, characters⟩,
          characters _ lastMember, fun same => lastEnd (isLast.trans (congrArg some same))⟩

theorem Formed.no_break {name : List Char} (formed : Formed name) : '\n' ∉ name :=
  fun member => absurd (formed.characters _ member) (by decide)

/-- The names that have the form are words of it, with or without a line break behind them. -/
theorem hasForm_iff {name : String} :
    hasForm name ↔ ∃ word : String, 2 ≤ word.length ∧ Formed word.toList ∧
      (name = word ∨ name = word ++ "\n") := by
  rw [hasForm, isName_iff]
  constructor
  · rintro ⟨length, formed⟩
    refine ⟨String.ofList (Text.withoutFinalBreak name.toList), ?_, ?_, ?_⟩
    · rwa [String.length_ofList]
    · rwa [String.toList_ofList]
    · rw [← String.toList_inj, ← String.toList_inj, String.toList_append, String.toList_ofList]
      exact (Text.withoutFinalBreak_eq_iff formed.no_break).mp rfl
  · rintro ⟨word, length, formed, isWord⟩
    have whole : Text.withoutFinalBreak name.toList = word.toList := by
      rw [Text.withoutFinalBreak_eq_iff formed.no_break]
      exact isWord.imp (congrArg String.toList)
        fun ended => by rw [ended, String.toList_append]; rfl
    rw [whole, String.length_toList]
    exact ⟨length, formed⟩

end BucketName

namespace Configuration

/-- The name is a word of three to sixty-three characters, which the ending behind it counts to. -/
def IsNamed (ending : String) (configuration : Configuration) : Prop :=
  ∃ word : String, configuration.name = .str (word ++ ending) ∧
    3 ≤ (word ++ ending).length ∧ (word ++ ending).length ≤ 63 ∧ BucketName.Formed word.toList

private theorem isNamed_empty_iff {configuration : Configuration} :
    configuration.IsNamed "" ↔ ∃ word : String, configuration.name = .str word ∧
      3 ≤ word.length ∧ word.length ≤ 63 ∧ BucketName.Formed word.toList := by
  simp only [IsNamed, String.append_empty]

private theorem nameErrors_eq_nil_iff_hasForm {configuration : Configuration} :
    configuration.nameErrors = [] ↔ ∃ name, configuration.name = .str name ∧
      BucketName.hasForm name ∧ 3 ≤ name.length ∧ name.length ≤ 63 := by
  unfold nameErrors
  split
  next name isName =>
    cases form : BucketName.hasForm name with
    | false => simp [isName, form]
    | true =>
        rw [Bool.not_true, if_neg Bool.false_ne_true, Path.flag_eq_nil_iff, Bool.or_eq_false_iff,
          decide_eq_false_iff_not, decide_eq_false_iff_not]
        simp [isName, form, shortestName, longestName]
  next other noText =>
    simp only [List.cons_ne_nil, false_iff, not_exists, not_and]
    exact fun name isName => absurd isName (noText name)

private theorem nameErrors_eq_nil_iff_isNamed {configuration : Configuration} :
    configuration.nameErrors = [] ↔ configuration.IsNamed "" ∨ configuration.IsNamed "\n" := by
  rw [nameErrors_eq_nil_iff_hasForm, isNamed_empty_iff]
  constructor
  · rintro ⟨name, isName, hasForm, shortest, longest⟩
    rcases BucketName.hasForm_iff.mp hasForm with ⟨word, -, formed, rfl | rfl⟩
    · exact .inl ⟨name, isName, shortest, longest, formed⟩
    · exact .inr ⟨word, isName, shortest, longest, formed⟩
  · rintro (⟨word, isName, shortest, longest, formed⟩ | ⟨word, isName, shortest, longest, formed⟩)
    · exact ⟨word, isName,
        BucketName.hasForm_iff.mpr ⟨word, Nat.le_of_succ_le shortest, formed, .inl rfl⟩,
        shortest, longest⟩
    · have length : 2 ≤ word.length := by
        rw [String.length_append] at shortest
        exact Nat.le_of_succ_le_succ shortest
      exact ⟨_, isName, BucketName.hasForm_iff.mpr ⟨word, length, formed, .inr rfl⟩, shortest,
        longest⟩

/-- No word ends in a line break. -/
private theorem IsNamed.not_ended {configuration : Configuration}
    (named : configuration.IsNamed "") : ¬configuration.IsNamed "\n" := by
  rintro ⟨other, isOther, -⟩
  rcases isNamed_empty_iff.mp named with ⟨word, isWord, -, -, formed⟩
  have same : word = other ++ "\n" := Scalar.str.inj (Tree.leaf.inj (isWord.symm.trans isOther))
  apply formed.no_break
  rw [same, String.toList_append]
  exact List.mem_append_right _ (.head _)

/-- A name is accepted if it is a word of the language, or such a word with a line break behind it.
So nothing but that line break is accepted beyond the language. -/
theorem nameErrors_eq_nil_iff (configuration : Configuration) :
    (configuration.nameErrors = [] ↔ configuration.IsNamed "" ∨ configuration.IsNamed "\n") ∧
      ((configuration.nameErrors = [] ↔ configuration.IsNamed "") ↔
        ¬configuration.IsNamed "\n") := by
  refine ⟨nameErrors_eq_nil_iff_isNamed, ?_⟩
  rw [nameErrors_eq_nil_iff_isNamed]
  constructor
  · exact fun exact ended => (exact.mp (.inr ended)).not_ended ended
  · exact fun notEnded => or_iff_left notEnded

private def bare (name key : String) : Configuration :=
  { name := .str name, environment := .str "prod", encryptionKey := .str key
    loggingBucket := .null, loggingPrefix := .null, lockEnabled := .bool false, lock := none
    trustedPrincipals := [], trustedActions := none, lifecycleRules := [], statements := []
    corsRules := [], tags := [] }

/-- A line break behind a name is no error. -/
theorem named_with_break :
    ¬∀ configuration : Configuration,
      configuration.nameErrors = [] ↔ configuration.IsNamed "" := by
  intro exact
  let configuration := bare "abc\n"
    "arn:aws:kms:us-east-1:123456789012:key/12345678-1234-1234-1234-123456789012"
  have named : configuration.IsNamed "" := (exact configuration).mp (by decide +kernel)
  have formed : BucketName.Formed "abc".toList :=
    ⟨List.all_eq_true.mp (by decide), by decide, by decide⟩
  exact named.not_ended ⟨"abc", rfl, by decide, by decide, formed⟩

end Configuration

/-! ## Encryption keys -/

namespace KeyArn

theorem Formed.mono {isDigit isOther : Char → Bool} {arn : KeyArn} (formed : arn.Formed isDigit)
    (covers : ∀ digit ∈ arn.account, isDigit digit → isOther digit) : arn.Formed isOther :=
  { formed with
    account := ⟨formed.account.1, fun digit member =>
      covers digit member (formed.account.2 digit member)⟩ }

theorem isDecimalDigit_of_isAsciiDigit {digit : Char} (isDigit : Text.isAsciiDigit digit) :
    Text.isDecimalDigit digit := by
  simp only [Text.isAsciiDigit, Bool.and_eq_true, decide_eq_true_eq] at isDigit
  have lowest : 48 ≤ digit.toNat := isDigit.1
  have highest : ¬57 < digit.toNat := Nat.not_lt.mpr isDigit.2
  rw [Text.isDecimalDigit, Text.decimalDigitRanges, CodeRanges.contains, if_neg highest]
  exact decide_eq_true lowest

/-- What a key spells tells its fields. -/
theorem eq_of_spelled {left right : KeyArn} {name : String}
    (leftFormed : left.Formed Text.isDecimalDigit) (rightFormed : right.Formed Text.isDecimalDigit)
    (isLeft : name = left.spelled ∨ name = left.spelled ++ "\n")
    (isRight : name = right.spelled ∨ name = right.spelled ++ "\n") : left = right := by
  have leftParsed := parse?_eq_some_iff.mpr ⟨leftFormed, isLeft⟩
  have rightParsed := parse?_eq_some_iff.mpr ⟨rightFormed, isRight⟩
  exact Option.some.inj (leftParsed.symm.trans rightParsed)

end KeyArn

namespace Configuration

/-- The encryption key spells out its fields, with an ending behind them. -/
def HasKey (isDigit : Char → Bool) (ending : String) (configuration : Configuration) : Prop :=
  ∃ arn : KeyArn, arn.Formed isDigit ∧ configuration.encryptionKey = .str (arn.spelled ++ ending)

private theorem hasKey_empty_iff {isDigit : Char → Bool} {configuration : Configuration} :
    configuration.HasKey isDigit "" ↔
      ∃ arn : KeyArn, arn.Formed isDigit ∧ configuration.encryptionKey = .str arn.spelled := by
  simp only [HasKey, String.append_empty]

private theorem encryptionKeyErrors_eq_nil_iff_parse? {configuration : Configuration} :
    configuration.encryptionKeyErrors = [] ↔
      ∃ key arn, configuration.encryptionKey = .str key ∧ KeyArn.parse? key = some arn := by
  refine ⟨exists_encryptionKey, ?_⟩
  rintro ⟨key, arn, isKey, parsed⟩
  have isGiven : Json.isGiven (.str key) := by
    refine decide_eq_true fun empty => ?_
    have notParsed : KeyArn.parse? "" = none := by decide +kernel
    rw [empty, notParsed] at parsed
    contradiction
  rw [encryptionKeyErrors, isKey, isGiven, Bool.not_true, if_neg Bool.false_ne_true,
    Path.flag_eq_nil_iff]
  exact congrArg Option.isNone parsed

private theorem encryptionKeyErrors_eq_nil_iff_hasKey {configuration : Configuration} :
    configuration.encryptionKeyErrors = [] ↔
      configuration.HasKey Text.isDecimalDigit "" ∨
        configuration.HasKey Text.isDecimalDigit "\n" := by
  rw [encryptionKeyErrors_eq_nil_iff_parse?, hasKey_empty_iff]
  constructor
  · rintro ⟨key, arn, isKey, parsed⟩
    rcases KeyArn.parse?_eq_some_iff.mp parsed with ⟨formed, rfl | rfl⟩
    · exact .inl ⟨arn, formed, isKey⟩
    · exact .inr ⟨arn, formed, isKey⟩
  · rintro (⟨arn, formed, isKey⟩ | ⟨arn, formed, isKey⟩)
    · exact ⟨_, arn, isKey, KeyArn.parse?_eq_some_iff.mpr ⟨formed, .inl rfl⟩⟩
    · exact ⟨_, arn, isKey, KeyArn.parse?_eq_some_iff.mpr ⟨formed, .inr rfl⟩⟩

/-- No key ends in a line break. -/
private theorem HasKey.not_ended {configuration : Configuration}
    (hasKey : configuration.HasKey Text.isDecimalDigit "") :
    ¬configuration.HasKey Text.isDecimalDigit "\n" := by
  rintro ⟨other, otherFormed, isOther⟩
  rcases hasKey_empty_iff.mp hasKey with ⟨arn, formed, isKey⟩
  have same : arn.spelled = other.spelled ++ "\n" :=
    Scalar.str.inj (Tree.leaf.inj (isKey.symm.trans isOther))
  cases KeyArn.eq_of_spelled formed otherFormed (.inl rfl) (.inr same)
  have lengths := congrArg String.length same
  rw [String.length_append] at lengths
  exact absurd lengths (Nat.ne_of_lt (Nat.lt_succ_self _))

private theorem HasKey.of_ascii {configuration : Configuration}
    (hasKey : configuration.HasKey Text.isAsciiDigit "") :
    configuration.HasKey Text.isDecimalDigit "" := by
  rcases hasKey with ⟨arn, formed, isKey⟩
  exact ⟨arn, formed.mono fun _ _ => KeyArn.isDecimalDigit_of_isAsciiDigit, isKey⟩

/-- A key of the language spells no other account than the one it is of the language with. -/
private theorem HasKey.account_ascii {configuration : Configuration}
    (hasKey : configuration.HasKey Text.isAsciiDigit "") {arn : KeyArn}
    (formed : arn.Formed Text.isDecimalDigit)
    (isKey : configuration.encryptionKey = .str arn.spelled) :
    ∀ digit ∈ arn.account, Text.isAsciiDigit digit := by
  rcases hasKey_empty_iff.mp hasKey with ⟨other, otherFormed, isOther⟩
  have spelled : arn.spelled = other.spelled :=
    Scalar.str.inj (Tree.leaf.inj (isKey.symm.trans isOther))
  have otherDecimal := otherFormed.mono fun _ _ => KeyArn.isDecimalDigit_of_isAsciiDigit
  cases KeyArn.eq_of_spelled formed otherDecimal (.inl rfl) (.inl spelled)
  exact otherFormed.account.2

/-- A key is accepted if it spells out its fields or does so with a line break behind it. So nothing
is accepted beyond the language but that line break and the digits of other scripts. -/
theorem encryptionKeyErrors_eq_nil_iff (configuration : Configuration) :
    (configuration.encryptionKeyErrors = [] ↔
        configuration.HasKey Text.isDecimalDigit "" ∨
          configuration.HasKey Text.isDecimalDigit "\n") ∧
      ((configuration.encryptionKeyErrors = [] ↔ configuration.HasKey Text.isAsciiDigit "") ↔
        ¬configuration.HasKey Text.isDecimalDigit "\n" ∧
          ∀ arn : KeyArn, arn.Formed Text.isDecimalDigit →
            configuration.encryptionKey = .str arn.spelled →
              ∀ digit ∈ arn.account, Text.isAsciiDigit digit) := by
  refine ⟨encryptionKeyErrors_eq_nil_iff_hasKey, ?_⟩
  rw [encryptionKeyErrors_eq_nil_iff_hasKey]
  constructor
  · intro exact
    constructor
    · intro ended
      exact (exact.mp (.inr ended)).of_ascii.not_ended ended
    · intro arn formed isKey
      have hasKey := hasKey_empty_iff.mpr ⟨arn, formed, isKey⟩
      exact (exact.mp (.inl hasKey)).account_ascii formed isKey
  · rintro ⟨notEnded, digits⟩
    rw [or_iff_left notEnded]
    refine ⟨fun hasKey => ?_, HasKey.of_ascii⟩
    rcases hasKey_empty_iff.mp hasKey with ⟨arn, formed, isKey⟩
    have ascii := formed.mono fun digit member _ => digits arn formed isKey digit member
    exact hasKey_empty_iff.mpr ⟨arn, ascii, isKey⟩

private def strayKeys : List String :=
  ["arn:aws:kms:us-east-1:123456789012:key/12345678-1234-1234-1234-123456789012\n",
    "arn:aws:kms:us-east-1:١٢٣٤٥٦٧٨٩٠١٢:key/12345678-1234-1234-1234-123456789012"]

/-- Neither a line break behind a key nor digits of another script in its account are an error. -/
theorem keyed_with_break_or_foreign_digits :
    ¬∃ key ∈ strayKeys, ((bare "abc" key).encryptionKeyErrors = [] ↔
      (bare "abc" key).HasKey Text.isAsciiDigit "") := by
  rintro ⟨key, member, exact⟩
  have accepted : ∀ key ∈ strayKeys, (bare "abc" key).encryptionKeyErrors = [] := by
    decide +kernel
  have strays : ∀ key ∈ strayKeys, (KeyArn.parse? key).all fun arn =>
      key ≠ arn.spelled || !arn.account.all Text.isAsciiDigit := by
    decide +kernel
  rcases hasKey_empty_iff.mp (exact.mp (accepted key member)) with ⟨arn, formed, isKey⟩
  have isSpelled : key = arn.spelled := Scalar.str.inj (Tree.leaf.inj isKey)
  have decimal := formed.mono fun _ _ => KeyArn.isDecimalDigit_of_isAsciiDigit
  have stray := strays key member
  rw [KeyArn.parse?_eq_some_iff.mpr ⟨decimal, .inl isSpelled⟩] at stray
  simp only [Option.all_some, isSpelled, ne_eq, not_true_eq_false, decide_false, Bool.false_or,
    Bool.not_eq_true', List.all_eq_false] at stray
  rcases stray with ⟨digit, isAccount, isForeign⟩
  exact isForeign (formed.account.2 digit isAccount)

end Configuration

end BucketGuard
