import BucketGuard.Json.Printer
import BucketGuard.Json.Reader
import BucketGuard.Proofs.Binary64.ReadBack

namespace BucketGuard

namespace Json

/-! Written numbers read back, and so do the words for what is no number. A number ends where a
character stands that cannot go on it. -/

/-! ## Where a number ends -/

/-- A character that can go on a number. -/
def goesOn (character : Char) : Bool :=
  isDigit character || character = '.' || character = 'e' || character = 'E'

/-- A text before which a number ends. -/
def Ends (rest : List Char) : Prop := ∀ character ∈ rest.head?, goesOn character = false

theorem ends_nil : Ends [] := fun _ member => nomatch member

theorem ends_cons {character : Char} (stops : goesOn character = false) (rest : List Char) :
    Ends (character :: rest) := by
  rintro other member
  rwa [← Option.some.inj member]

private theorem Ends.cases {rest : List Char} (ends : Ends rest) :
    rest = [] ∨ ∃ character others, rest = character :: others ∧ isDigit character = false ∧
      character ≠ '.' ∧ ¬(character = 'e' ∨ character = 'E') := by
  cases rest with
  | nil => exact .inl rfl
  | cons character others =>
      have stops := ends character rfl
      simp only [goesOn, Bool.or_eq_false_iff, decide_eq_false_iff_not] at stops
      exact .inr ⟨character, others, rfl, stops.1.1.1, stops.1.1.2, by tauto⟩

/-! ## Digits -/

/-- A text that goes on without a digit. -/
private def NoDigit (rest : List Char) : Prop := ∀ character ∈ rest.head?, isDigit character = false

private theorem Ends.noDigit {rest : List Char} (ends : Ends rest) : NoDigit rest := by
  intro character member
  have stops := ends character member
  simp only [goesOn, Bool.or_eq_false_iff] at stops
  exact stops.1.1.1

private theorem noDigit_cons {character : Char} (none : isDigit character = false)
    (rest : List Char) : NoDigit (character :: rest) := by
  rintro other member
  rwa [← Option.some.inj member]

private theorem takeWhile_digits {digits rest : List Char}
    (areDigits : ∀ character ∈ digits, isDigit character) (noDigit : NoDigit rest) :
    (digits ++ rest).takeWhile isDigit = digits ∧ (digits ++ rest).dropWhile isDigit = rest := by
  rw [List.takeWhile_append_of_pos areDigits, List.dropWhile_append_of_pos areDigits]
  cases rest with
  | nil => simp
  | cons character others => simp [noDigit character rfl]

/-- The digits of a whole number: there are some, and a zero at their start stands alone. -/
structure IsWhole (digits : List Char) : Prop where
  areDigits : ∀ character ∈ digits, isDigit character
  nonempty : digits ≠ []
  leads : digits.head? = some '0' → digits = ['0']

private theorem isWhole_zero : IsWhole ['0'] where
  areDigits := List.forall_mem_singleton.mpr rfl
  nonempty := List.cons_ne_nil _ _
  leads _ := rfl

private theorem wholeDigits?_append {digits : List Char} (isWhole : IsWhole digits)
    {rest : List Char} (noDigit : NoDigit rest) :
    wholeDigits? (digits ++ rest) = some (digits, rest) := by
  rcases isWhole with ⟨areDigits, nonempty, leads⟩
  rcases List.exists_cons_of_ne_nil nonempty with ⟨first, others, rfl⟩
  by_cases zero : first = '0'
  · subst zero
    rw [leads rfl]
    rfl
  · have split := takeWhile_digits (fun character member => areDigits character (.tail _ member))
      noDigit
    have isFirst := areDigits first (.head _)
    rw [List.cons_append, wholeDigits?]
    · rw [if_pos isFirst, split.1, split.2]
    · exact fun same => zero same

private theorem fraction_digits {digits : List Char} (nonempty : digits ≠ [])
    (areDigits : ∀ character ∈ digits, isDigit character) {rest : List Char}
    (noDigit : NoDigit rest) : fraction ('.' :: (digits ++ rest)) = (some digits, rest) := by
  have split := takeWhile_digits areDigits noDigit
  rcases List.exists_cons_of_ne_nil nonempty with ⟨first, others, rfl⟩
  simp only [fraction, split.1, split.2]

private theorem fraction_none {rest : List Char} (noPoint : ∀ others, rest ≠ '.' :: others) :
    fraction rest = (none, rest) := by
  unfold fraction
  split
  · exact absurd rfl (noPoint _)
  · rfl

private theorem exponent_none {rest : List Char} (ends : Ends rest) :
    exponent rest = (none, rest) := by
  rcases ends.cases with rfl | ⟨character, others, rfl, -, -, noLetter⟩
  · rfl
  · simp only [exponent, noLetter, if_false]

private theorem exponent_digits (negative : Bool) {digits : List Char} (nonempty : digits ≠ [])
    (areDigits : ∀ character ∈ digits, isDigit character) {rest : List Char}
    (noDigit : NoDigit rest) :
    exponent ('e' :: (if negative then '-' else '+') :: (digits ++ rest)) =
      (some (if negative then -(Nat.ofDigitChars 10 digits 0 : Int)
        else Nat.ofDigitChars 10 digits 0), rest) := by
  have split := takeWhile_digits areDigits noDigit
  rcases List.exists_cons_of_ne_nil nonempty with ⟨first, others, rfl⟩
  cases negative with
  | false => simp only [exponent, Bool.false_eq_true, if_false, true_or, if_true, split.1, split.2]
  | true => simp only [exponent, if_true, true_or, split.1, split.2]

/-! ## Numbers -/

private theorem readNumber?_int (negative : Bool) {digits : List Char} (isWhole : IsWhole digits)
    {rest : List Char} (ends : Ends rest) :
    readNumber? negative (digits ++ rest) =
      some (.int (if negative then -(Nat.ofDigitChars 10 digits 0 : Int)
        else Nat.ofDigitChars 10 digits 0), rest) := by
  have noPoint : ∀ others, rest ≠ '.' :: others := by
    rintro others rfl
    exact absurd (ends '.' rfl) (by decide)
  simp only [readNumber?, wholeDigits?_append isWhole ends.noDigit, fraction_none noPoint,
    exponent_none ends, bind, Option.bind, pure]

/-- A number with a fraction or an exponent, from its parts. -/
private theorem readNumber?_float (negative : Bool) {text whole afterWhole : List Char}
    {decimals : Option (List Char)} {afterFraction : List Char} {power : Option Int}
    {rest : List Char} (readWhole : wholeDigits? text = some (whole, afterWhole))
    (readFraction : fraction afterWhole = (decimals, afterFraction))
    (readExponent : exponent afterFraction = (power, rest)) (isFloat : decimals.isSome ∨ power.isSome) :
    readNumber? negative text =
      some (.float (.ofDecimal negative (Nat.ofDigitChars 10 (whole ++ decimals.getD []) 0)
        (power.getD 0 - (decimals.getD []).length)), rest) := by
  simp only [readNumber?, readWhole, readFraction, readExponent, bind, Option.bind, pure]
  cases decimals with
  | some decimals => rfl
  | none => cases power with
    | some power => rfl
    | none => simp at isFloat

private theorem readNumber?_positional (negative : Bool) {whole decimals : List Char}
    (isWhole : IsWhole whole) (nonempty : decimals ≠ [])
    (areDigits : ∀ character ∈ decimals, isDigit character) {rest : List Char} (ends : Ends rest) :
    readNumber? negative (whole ++ '.' :: (decimals ++ rest)) =
      some (.float (.ofDecimal negative (Nat.ofDigitChars 10 (whole ++ decimals) 0)
        (0 - decimals.length)), rest) :=
  readNumber?_float negative (wholeDigits?_append isWhole (noDigit_cons rfl _))
    (fraction_digits nonempty areDigits ends.noDigit) (exponent_none ends) (.inl rfl)

private theorem readNumber?_scientific (negative : Bool) {first : Char} (given : first ≠ '0')
    {decimals : List Char} (areDigits : ∀ character ∈ first :: decimals, isDigit character)
    (down : Bool) {power : List Char} (nonempty : power ≠ [])
    (powerDigits : ∀ character ∈ power, isDigit character) {rest : List Char} (ends : Ends rest) :
    readNumber? negative (first :: ((if decimals = [] then [] else '.' :: decimals) ++
        'e' :: (if down then '-' else '+') :: (power ++ rest))) =
      some (.float (.ofDecimal negative (Nat.ofDigitChars 10 (first :: decimals) 0)
        ((if down then -(Nat.ofDigitChars 10 power 0 : Int) else Nat.ofDigitChars 10 power 0) -
          decimals.length)), rest) := by
  have isWhole : IsWhole [first] :=
    { areDigits := by simpa using areDigits first (.head _)
      nonempty := List.cons_ne_nil _ _
      leads := fun zero => absurd (Option.some.inj zero) given }
  have powered := exponent_digits down nonempty powerDigits ends.noDigit
  by_cases none : decimals = []
  · subst none
    exact readNumber?_float negative (wholeDigits?_append isWhole (noDigit_cons rfl _))
      (fraction_none (by simp)) powered (.inr rfl)
  · rw [if_neg none]
    exact readNumber?_float negative (wholeDigits?_append isWhole (noDigit_cons rfl _))
      (fraction_digits none (fun character member => areDigits character (.tail _ member))
        (noDigit_cons rfl _)) powered (.inl rfl)

/-! ## Written floats -/

private theorem ofDigitChars_zeros (count : Nat) (digits : List Char) :
    Nat.ofDigitChars 10 (List.replicate count '0' ++ digits) 0 = Nat.ofDigitChars 10 digits 0 := by
  rw [Nat.ofDigitChars_append, Nat.ofDigitChars_replicate_zero, Nat.mul_zero]

private theorem isDigit_zeros (count : Nat) :
    ∀ character ∈ List.replicate count '0', isDigit character := fun _ member =>
  List.eq_of_mem_replicate member ▸ rfl

/-- The text is read as the number that some decimal of the value is rounded to. -/
private def ReadsAs (negative : Bool) (text rest : List Char) (value : ℚ) : Prop :=
  ∃ (number : Nat) (power : Int), (number : ℚ) * 10 ^ power = value ∧
    readNumber? negative (text ++ rest) = some (.float (.ofDecimal negative number power), rest)

section Float

variable {digits : List Char} {point : Int} {decimal : Decimal}

/-- Positional notation has digits on both sides of the point, which leave the value. -/
private theorem positional_parts (shows : Decimal.Shows digits point decimal) :
    ∃ whole decimals, Binary64.positional digits point = whole ++ '.' :: decimals ∧
      IsWhole whole ∧ decimals ≠ [] ∧ (∀ character ∈ decimals, isDigit character) ∧
      (Nat.ofDigitChars 10 (whole ++ decimals) 0 : ℚ) * 10 ^ (0 - decimals.length : Int) =
        decimal.value := by
  rcases shows with ⟨areDigits, nonempty, leads, value⟩
  rw [value]
  unfold Binary64.positional
  split
  · rename_i low
    refine ⟨['0'], List.replicate (-point).toNat '0' ++ digits, rfl, isWhole_zero,
      by simp [nonempty], List.forall_mem_append.mpr ⟨isDigit_zeros _, areDigits⟩, ?_⟩
    have number := ofDigitChars_zeros (1 + (-point).toNat) digits
    rw [← List.replicate_append_replicate, List.append_assoc] at number
    rw [List.replicate_one] at number
    rw [number, List.length_append, List.length_replicate]
    congr 2
    push_cast
    omega
  split
  · rename_i high long
    refine ⟨digits ++ List.replicate (point.toNat - digits.length) '0', ['0'], rfl, ?_,
      List.cons_ne_nil _ _, isWhole_zero.areDigits, ?_⟩
    · exact { areDigits := List.forall_mem_append.mpr ⟨areDigits, isDigit_zeros _⟩
              nonempty := by simp [nonempty]
              leads := fun zero => absurd zero (by rwa [List.head?_append_of_ne_nil _ nonempty]) }
    · have zeros : List.replicate (point.toNat - digits.length) '0' ++ ['0'] =
          List.replicate (point.toNat - digits.length + 1) '0' := List.replicate_succ'.symm
      have power : point - digits.length = ((point.toNat - digits.length : Nat) : Int) := by omega
      rw [List.append_assoc, zeros, Nat.ofDigitChars_append, Nat.ofDigitChars_replicate_zero, power,
        zpow_natCast]
      push_cast
      rw [pow_succ]
      simp only [List.length_singleton]
      norm_num
      ring
  · rename_i high short
    refine ⟨digits.take point.toNat, digits.drop point.toNat, rfl, ?_, ?_, ?_, ?_⟩
    · have isFirst : (digits.take point.toNat).head? = digits.head? := by
        rw [List.head?_take, if_neg (by omega)]
      exact { areDigits := fun character member => areDigits character (List.mem_of_mem_take member)
              nonempty := by simp [nonempty]; omega
              leads := fun zero => absurd zero (by rwa [isFirst]) }
    · rw [Ne, List.drop_eq_nil_iff]
      omega
    · exact fun character member => areDigits character (List.mem_of_mem_drop member)
    · rw [List.take_append_drop, List.length_drop]
      congr 2
      omega

private theorem readsAs_positional (shows : Decimal.Shows digits point decimal)
    (negative : Bool) {rest : List Char} (ends : Ends rest) :
    ReadsAs negative (Binary64.positional digits point) rest decimal.value := by
  rcases positional_parts shows with ⟨whole, decimals, equal, isWhole, nonempty, areDigits, value⟩
  refine ⟨_, _, value, ?_⟩
  rw [equal, List.append_assoc]
  exact readNumber?_positional negative isWhole nonempty areDigits ends

/-- Scientific notation has one digit before the point, and a power that moves it back. -/
private theorem readsAs_scientific (shows : Decimal.Shows digits point decimal)
    (negative : Bool) {rest : List Char} (ends : Ends rest) :
    ReadsAs negative (Binary64.scientific digits point) rest decimal.value := by
  rcases shows with ⟨areDigits, nonempty, leads, value⟩
  rcases List.exists_cons_of_ne_nil nonempty with ⟨first, decimals, rfl⟩
  have given : first ≠ '0' := fun zero => leads (congrArg some zero)
  generalize padded : (if (Nat.toDigits 10 (point - 1).natAbs).length < 2 then ['0'] else []) ++
    Nat.toDigits 10 (point - 1).natAbs = power
  have powerDigits : ∀ character ∈ power, isDigit character := by
    rw [← padded, List.forall_mem_append]
    refine ⟨?_, fun character member =>
      Nat.isDigit_of_mem_toDigits (by decide) (by decide) member⟩
    split
    · exact isWhole_zero.areDigits
    · exact List.forall_mem_nil _
  have powerNonempty : power ≠ [] := by
    rw [← padded]
    simp [Nat.toDigits_ne_nil]
  have magnitude : Nat.ofDigitChars 10 power 0 = (point - 1).natAbs := by
    rw [← padded, Nat.ofDigitChars_append]
    split <;> exact Nat.ofDigitChars_ten_toDigits
  have reading := readNumber?_scientific negative given areDigits (decide (point - 1 < 0))
    powerNonempty powerDigits ends
  have text : Binary64.scientific (first :: decimals) point ++ rest =
      first :: ((if decimals = [] then [] else '.' :: decimals) ++
        'e' :: (if decide (point - 1 < 0) then '-' else '+') :: (power ++ rest)) := by
    simp only [Binary64.scientific, padded, decide_eq_true_eq]
    cases decimals <;> simp
  rw [← text] at reading
  refine ⟨_, _, ?_, reading⟩
  rw [value, magnitude, List.length_cons]
  congr 2
  simp only [decide_eq_true_eq]
  split <;> omega

end Float

/-- A number in form is read back from its digits. -/
private theorem readNumber?_unsigned {negative : Bool} {significand : Nat} {exponent : Int}
    (inForm : Binary64.InForm (.finite negative significand exponent)) {rest : List Char}
    (ends : Ends rest) :
    readNumber? negative (Binary64.unsigned significand exponent ++ rest) =
      some (.float (.finite negative significand exponent), rest) := by
  unfold Binary64.unsigned
  split
  · rename_i none
    subst none
    have isLeast : exponent = Binary64.leastExponent := inForm.2.2.2.resolve_right (by norm_num)
    rw [isLeast]
    exact readNumber?_positional negative isWhole_zero (List.cons_ne_nil '0' [])
      isWhole_zero.areDigits ends
  · rename_i given
    have shows := Decimal.shows_significant (Binary64.shortest_digits inForm given)
    dsimp only
    split
    · rcases readsAs_positional shows negative ends with ⟨number, power, value, reading⟩
      rw [reading, Binary64.ofDecimal_shortest inForm given value]
    · rcases readsAs_scientific shows negative ends with ⟨number, power, value, reading⟩
      rw [reading, Binary64.ofDecimal_shortest inForm given value]

/-! ## Scalars -/

end Json

/-- A scalar whose number, if it is a float, is in form. -/
def Scalar.InForm : Scalar → Prop
  | .float value => value.InForm
  | _ => True

namespace Json

private theorem exists_digit_of_readNumber? {negative : Bool} {text : List Char}
    {result : Scalar × List Char} (reading : readNumber? negative text = some result) :
    ∃ first others, text = first :: others ∧ isDigit first := by
  rcases Option.bind_eq_some_iff.mp reading with ⟨⟨whole, afterWhole⟩, isWhole, -⟩
  unfold wholeDigits? at isWhole
  split at isWhole
  · exact ⟨_, _, rfl, rfl⟩
  · rename_i first others _
    split at isWhole
    · rename_i isFirst
      exact ⟨first, others, rfl, isFirst⟩
    · contradiction
  · contradiction

private theorem readLiteral?_of_digit {first : Char} (isFirst : isDigit first)
    (others : List Char) : readLiteral? (first :: others) = none := by
  unfold readLiteral?
  split <;> simp_all [isDigit]

private theorem readScalar?_of_readNumber? {text : List Char} {result : Scalar × List Char}
    (reading : readNumber? false text = some result) : readScalar? text = some result := by
  rcases exists_digit_of_readNumber? reading with ⟨first, others, rfl, isFirst⟩
  rw [readScalar?, readLiteral?_of_digit isFirst]
  · exact reading
  · rintro rest equal
    rw [(List.cons.inj equal).1] at isFirst
    contradiction

private theorem readScalar?_of_readNumber?_negative {text : List Char}
    {result : Scalar × List Char} (reading : readNumber? true text = some result) :
    readScalar? ('-' :: text) = some result := by
  rcases exists_digit_of_readNumber? reading with ⟨first, others, rfl, isFirst⟩
  have none : readLiteral? ('-' :: first :: others) = none := by
    unfold readLiteral?
    split <;> simp_all [isDigit]
  rw [readScalar?, none]
  exact reading

private theorem isWhole_toDigits (number : Nat) : IsWhole (Nat.toDigits 10 number) where
  areDigits _ member := Nat.isDigit_of_mem_toDigits (by decide) (by decide) member
  nonempty := Nat.toDigits_ne_nil
  leads zero := by
    by_cases none : number = 0
    · rw [none, Nat.toDigits_zero]
    · exact absurd zero (Decimal.head?_toDigits none)

private theorem readScalar?_writeInt (value : Int) {rest : List Char} (ends : Ends rest) :
    readScalar? (writeInt value ++ rest) = some (.int value, rest) := by
  cases value with
  | ofNat value =>
      have reading := readNumber?_int false (isWhole_toDigits value) ends
      rw [Nat.ofDigitChars_ten_toDigits] at reading
      exact readScalar?_of_readNumber? reading
  | negSucc value =>
      have reading := readNumber?_int true (isWhole_toDigits (value + 1)) ends
      rw [Nat.ofDigitChars_ten_toDigits] at reading
      exact readScalar?_of_readNumber?_negative reading

private theorem readScalar?_layout {value : Binary64} (inForm : value.InForm) {rest : List Char}
    (ends : Ends rest) :
    readScalar? (value.layout numberWords ++ rest) = some (.float value, rest) := by
  cases value with
  | nan => rfl
  | infinite negative => cases negative <;> rfl
  | finite negative significand exponent =>
      have reading := readNumber?_unsigned inForm ends
      cases negative with
      | false => exact readScalar?_of_readNumber? reading
      | true => exact readScalar?_of_readNumber?_negative reading

/-- A written scalar that is no text is read back. -/
theorem readScalar?_writeScalar {value : Scalar} (noText : ∀ text, value ≠ .str text)
    (inForm : value.InForm) {rest : List Char} (ends : Ends rest) :
    readScalar? (writeScalar value ++ rest) = some (value, rest) := by
  cases value with
  | null => rfl
  | bool value => cases value <;> rfl
  | int value => exact readScalar?_writeInt value ends
  | float value => exact readScalar?_layout inForm ends
  | str text => exact absurd rfl (noText text)

end Json

end BucketGuard
