import BucketGuard.Proofs.Json.Text

namespace BucketGuard.Json

/-! Where a written value ends: at the first comma, colon or closing bracket that does not belong to
it. Whatever a scalar looks like, no such cut divides it. -/

/-- Where one stands in a text: between quotes or not, and there behind a backslash or not. -/
inductive Place where
  | outside
  | inside
  | escaped

/-- What is there with something before it. -/
def withBefore (text : List Char) (cut : List Char × List Char) : List Char × List Char :=
  (text ++ cut.1, cut.2)

/-- Cuts a text before the first comma, colon or closing bracket that is not enclosed: in quotes, or
in brackets, of which some are open already. -/
def cutValue (place : Place) (depth : Nat) : List Char → List Char × List Char
  | [] => ([], [])
  | character :: rest =>
      match place with
      | .escaped => withBefore [character] (cutValue .inside depth rest)
      | .inside =>
          let next : Place :=
            if character = '\\' then .escaped else if character = '"' then .outside else .inside
          withBefore [character] (cutValue next depth rest)
      | .outside =>
          if character = '"' then withBefore [character] (cutValue .inside depth rest)
          else if character = '[' ∨ character = '{' then
            withBefore [character] (cutValue .outside (depth + 1) rest)
          else if character = ']' ∨ character = '}' then
            match depth with
            | 0 => ([], character :: rest)
            | depth + 1 => withBefore [character] (cutValue .outside depth rest)
          else if (character = ',' ∨ character = ':') ∧ depth = 0 then ([], character :: rest)
          else withBefore [character] (cutValue .outside depth rest)

/-- No cut that begins with a text divides it, and after it the cut goes on as it began. -/
def Passes (place : Place) (depth : Nat) (text : List Char) : Prop :=
  ∀ rest, cutValue place depth (text ++ rest) = withBefore text (cutValue place depth rest)

/-- A text that no cut divides. -/
def Whole (text : List Char) : Prop := ∀ depth, Passes .outside depth text

/-- A text that no cut divides between brackets. -/
def Inner (text : List Char) : Prop := ∀ depth, Passes .outside (depth + 1) text

/-- A text before which a value ends. -/
def Stops (text : List Char) : Prop := cutValue .outside 0 text = ([], text)

@[simp] theorem withBefore_withBefore (first second : List Char)
    (cut : List Char × List Char) :
    withBefore first (withBefore second cut) = withBefore (first ++ second) cut := by
  simp [withBefore]

theorem Passes.append {place : Place} {depth : Nat} {first second : List Char}
    (ofFirst : Passes place depth first) (ofSecond : Passes place depth second) :
    Passes place depth (first ++ second) := by
  intro rest
  rw [List.append_assoc, ofFirst, ofSecond, withBefore_withBefore]

theorem Whole.nil : Whole [] := fun _ _ => rfl

theorem Whole.inner {text : List Char} (whole : Whole text) : Inner text :=
  fun depth => whole (depth + 1)

theorem Inner.append {first second : List Char} (ofFirst : Inner first) (ofSecond : Inner second) :
    Inner (first ++ second) := fun depth =>
  (ofFirst depth).append (ofSecond depth)

/-! ## Numbers and words -/

/-- A character that neither opens nor closes anything nor sets anything apart. -/
def isPlain (character : Char) : Bool :=
  character ∉ ['"', '[', '{', ']', '}', ',', ':']

def Plain (text : List Char) : Prop := ∀ character ∈ text, isPlain character

instance (text : List Char) : Decidable (Plain text) :=
  decidable_of_iff (text.all isPlain) List.all_eq_true

theorem Plain.whole {text : List Char} (plain : Plain text) : Whole text := by
  induction text with
  | nil => exact .nil
  | cons character rest induction =>
      have ofRest := induction fun other member => plain other (List.mem_cons_of_mem _ member)
      have first := plain character (List.mem_cons_self ..)
      simp only [isPlain, List.mem_cons, List.not_mem_nil, or_false, not_or,
        decide_eq_true_eq] at first
      rcases first with ⟨quote, bracket, brace, endBracket, endBrace, comma, colon⟩
      intro depth others
      simp only [List.cons_append, cutValue, quote, bracket, brace, endBracket, endBrace, comma,
        colon, or_self, false_and, if_false, ofRest depth others, withBefore_withBefore,
        List.nil_append]

/-- The characters of numbers and words. -/
def scalarCharacters : List Char := "+-.0123456789INaefilnrstuy".toList

private abbrev Bare (text : List Char) : Prop := text ⊆ scalarCharacters

private theorem Bare.nil : Bare [] := List.nil_subset _

private theorem Bare.cons {character : Char} {text : List Char}
    (first : character ∈ scalarCharacters) (rest : Bare text) : Bare (character :: text) :=
  List.cons_subset.mpr ⟨first, rest⟩

private theorem Bare.append {first second : List Char} (ofFirst : Bare first)
    (ofSecond : Bare second) : Bare (first ++ second) :=
  List.append_subset.mpr ⟨ofFirst, ofSecond⟩

private theorem Bare.replicate (count : Nat) {character : Char}
    (isScalar : character ∈ scalarCharacters) :
    Bare (List.replicate count character) := fun _ member =>
  List.eq_of_mem_replicate member ▸ isScalar

private theorem bare_of_isDigit {character : Char} (digit : character.isDigit) :
    character ∈ scalarCharacters := by
  have digits : ∀ point : Nat, point < 58 → 48 ≤ point → Char.ofNat point ∈ scalarCharacters := by
    decide
  rcases Bool.and_eq_true_iff.mp digit with ⟨low, high⟩
  have low : 48 ≤ character.toNat := of_decide_eq_true low
  have high : character.toNat ≤ 57 := of_decide_eq_true high
  simpa using digits character.toNat (Nat.lt_succ_of_le high) low

private theorem bare_toDigits (value : Nat) : Bare (Nat.toDigits 10 value) := fun _ member =>
  bare_of_isDigit (Nat.isDigit_of_mem_toDigits (by decide) (by decide) member)

private theorem bare_writeInt (value : Int) : Bare (writeInt value) := by
  cases value with
  | ofNat value => exact bare_toDigits value
  | negSucc value => exact .cons (by decide) (bare_toDigits (value + 1))

private theorem bare_significant (decimal : Decimal) : Bare decimal.significant.1 := by
  intro character member
  have kept := List.mem_reverse.mp member
  have written := List.mem_reverse.mp (List.dropWhile_subset _ kept)
  exact bare_toDigits _ written

private theorem bare_positional {digits : List Char} (bare : Bare digits) (point : Int) :
    Bare (Binary64.positional digits point) := by
  have zeros (count : Nat) : Bare (List.replicate count '0') := .replicate count (by decide)
  have pointZero : Bare ['.', '0'] := .cons (by decide) (.cons (by decide) .nil)
  unfold Binary64.positional
  split
  · exact .cons (by decide) (.cons (by decide) ((zeros _).append bare))
  split
  · exact (bare.append (zeros _)).append pointZero
  · have front : Bare (digits.take point.toNat) := fun _ member =>
      bare (List.mem_of_mem_take member)
    have back : Bare (digits.drop point.toNat) := fun _ member =>
      bare (List.mem_of_mem_drop member)
    exact front.append (.cons (by decide) back)

private theorem bare_scientific {digits : List Char} (bare : Bare digits) (point : Int) :
    Bare (Binary64.scientific digits point) := by
  have power : Bare (Nat.toDigits 10 (point - 1).natAbs) := bare_toDigits _
  unfold Binary64.scientific
  refine .append ?_ (.cons (by decide) (.cons ?_ (.append ?_ power)))
  · cases digits with
    | nil => exact .nil
    | cons digit rest =>
        rcases List.cons_subset.mp bare with ⟨first, others⟩
        cases rest with
        | nil => exact bare
        | cons second rest => exact .cons first (.cons (by decide) others)
  · split <;> decide
  · split
    · exact .cons (by decide) .nil
    · exact .nil

private theorem bare_unsigned (significand : Nat) (exponent : Int) :
    Bare (Binary64.unsigned significand exponent) := by
  have digits := bare_significant (Decimal.shortest significand exponent)
  unfold Binary64.unsigned
  split
  · decide
  · dsimp only
    split
    · exact bare_positional digits _
    · exact bare_scientific digits _

private theorem bare_layout (value : Binary64) : Bare (value.layout numberWords) := by
  cases value with
  | nan => decide
  | infinite negative => cases negative <;> decide
  | finite negative significand exponent =>
      have sign : Bare (if negative then ['-'] else []) := by cases negative <;> decide
      exact sign.append (bare_unsigned significand exponent)

/-! ## Texts -/

/-- A text between quotes that no cut divides. -/
private def Spoken (text : List Char) : Prop := ∀ depth, Passes .inside depth text

private theorem Spoken.append {first second : List Char} (ofFirst : Spoken first)
    (ofSecond : Spoken second) : Spoken (first ++ second) := fun depth =>
  (ofFirst depth).append (ofSecond depth)

private theorem spoken_character {character : Char} (noQuote : character ≠ '"')
    (noSlash : character ≠ '\\') : Spoken [character] := by
  intro depth rest
  simp only [List.cons_append, List.nil_append, cutValue, noQuote, noSlash, if_false]

private theorem spoken_escape (character : Char) : Spoken ['\\', character] := by
  intro depth rest
  simp [cutValue]

private theorem digitChar_ne :
    ∀ digit : Fin 16, Nat.digitChar digit ≠ '"' ∧ Nat.digitChar digit ≠ '\\' := by decide

private theorem spoken_unitEscape {unit : Nat} (bound : unit < 0x10000) :
    Spoken (unitEscape unit) := by
  have digit (number : Nat) (small : number < 16) : Spoken [Nat.digitChar number] :=
    have different := digitChar_ne ⟨number, small⟩
    spoken_character different.1 different.2
  rw [unitEscape, hexadecimal_four unit bound]
  exact (spoken_escape 'u').append ((digit _ (by omega)).append ((digit _ (by omega)).append
    ((digit _ (by omega)).append (digit _ (by omega)))))

private theorem spoken_pointEscape (character : Char) : Spoken (pointEscape character.toNat) := by
  have bounds := toNat_bounds character
  unfold pointEscape
  split
  · exact spoken_unitEscape (by omega)
  · exact (spoken_unitEscape (by omega)).append (spoken_unitEscape (by omega))

private theorem spoken_writeCharacter (character : Char) : Spoken (writeCharacter character) := by
  unfold writeCharacter
  split
  · exact spoken_escape _
  rename_i quote
  split
  · exact spoken_escape _
  rename_i slash
  split
  · exact spoken_escape _
  split
  · exact spoken_escape _
  split
  · exact spoken_escape _
  split
  · exact spoken_escape _
  split
  · exact spoken_escape _
  split
  · exact spoken_character quote slash
  · exact spoken_pointEscape character

private theorem spoken_flatMap (characters : List Char) :
    Spoken (characters.flatMap writeCharacter) := by
  induction characters with
  | nil => exact fun _ _ => rfl
  | cons character rest induction => exact (spoken_writeCharacter character).append induction

theorem whole_writeText (text : String) : Whole (writeText text) := by
  intro depth rest
  have body := spoken_flatMap text.toList depth ('"' :: rest)
  simp [writeText, cutValue, body]

theorem writeScalar_subset {value : Scalar} (noText : ∀ text, value ≠ .str text) :
    writeScalar value ⊆ scalarCharacters := by
  cases value with
  | null => decide
  | bool value => cases value <;> decide
  | int value => exact bare_writeInt value
  | float value => exact bare_layout value
  | str text => exact absurd rfl (noText text)

theorem plain_writeScalar {value : Scalar} (noText : ∀ text, value ≠ .str text) :
    Plain (writeScalar value) := by
  have plain : Plain scalarCharacters := by decide
  exact fun character member => plain character (writeScalar_subset noText member)

theorem whole_writeScalar (value : Scalar) : Whole (writeScalar value) := by
  cases value with
  | str text => exact whole_writeText text
  | _ => exact (plain_writeScalar (by simp)).whole

end BucketGuard.Json
