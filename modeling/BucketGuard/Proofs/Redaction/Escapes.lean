import BucketGuard.Proofs.Json.Cut
import BucketGuard.Proofs.Redaction.Patterns

namespace BucketGuard.Redaction

/-! Accounts in text that is written as JSON. An escape breaks the text of a pattern into pieces, but
it may also begin one: the last digit of an escape may be the letter that an ARN begins with. No other
account is shown by written text than those of the text itself and those that an escape begins. -/

-- Every character of a text, and not every character, whatever else is imported.
attribute [local instance (2000)] List.decidableBAll

open Json (writeCharacter writeText)

/-! ## Escapes -/

/-- The digits of a number in hexadecimal. -/
theorem mem_of_mem_toDigits {number : Nat} {character : Char}
    (member : character ∈ Nat.toDigits 16 number) : character ∈ "0123456789abcdef".toList := by
  have digit : ∀ digit : Fin 16, Nat.digitChar digit ∈ "0123456789abcdef".toList := by decide
  induction number using Nat.strongRecOn with
  | ind number induction =>
      by_cases small : number < 16
      · rw [Nat.toDigits_of_lt_base small, List.mem_singleton] at member
        rw [member]
        exact digit ⟨number, small⟩
      · rw [Nat.toDigits_of_base_le (by decide) (Nat.le_of_not_lt small)] at member
        rcases List.mem_append.mp member with early | last
        · exact induction (number / 16) (by omega) early
        · rw [List.mem_singleton.mp last]
          exact digit ⟨number % 16, by omega⟩

theorem mem_of_mem_hexadecimal {width number : Nat} {character : Char}
    (member : character ∈ Text.hexadecimal width number) :
    character ∈ "0123456789abcdef".toList := by
  rcases List.mem_append.mp member with zero | digit
  · rw [List.eq_of_mem_replicate zero]
    decide
  · exact mem_of_mem_toDigits digit

/-- An escape: a letter behind a backslash, and perhaps digits, with further escapes among them. -/
def IsEscape (written : List Char) : Prop :=
  ∃ letter digits, written = '\\' :: letter :: digits ∧ letter ∈ "\"\\nrtbfu".toList ∧
    ∀ digit ∈ digits, digit ∈ "0123456789abcdef\\u".toList

private theorem isEscape_letter {letter : Char} (member : letter ∈ "\"\\nrtbfu".toList) :
    IsEscape ['\\', letter] :=
  ⟨letter, [], rfl, member, List.forall_mem_nil _⟩

private theorem isEscape_unitEscape (unit : Nat) {behind : List Char}
    (more : ∀ digit ∈ behind, digit ∈ "0123456789abcdef\\u".toList) :
    IsEscape (Json.unitEscape unit ++ behind) := by
  have wider : ∀ digit ∈ "0123456789abcdef".toList, digit ∈ "0123456789abcdef\\u".toList := by
    decide
  refine ⟨'u', Text.hexadecimal 4 unit ++ behind, rfl, by decide, fun digit member => ?_⟩
  rcases List.mem_append.mp member with own | later
  · exact wider digit (mem_of_mem_hexadecimal own)
  · exact more digit later

private theorem isEscape_pointEscape (point : Nat) : IsEscape (Json.pointEscape point) := by
  rw [Json.pointEscape]
  split
  · rw [← List.append_nil (Json.unitEscape point)]
    exact isEscape_unitEscape point (List.forall_mem_nil _)
  · refine isEscape_unitEscape _ fun digit member => ?_
    rw [Json.unitEscape] at member
    rcases List.mem_cons.mp member with rfl | member
    · decide
    rcases List.mem_cons.mp member with rfl | member
    · decide
    have wider : ∀ digit ∈ "0123456789abcdef".toList,
        digit ∈ "0123456789abcdef\\u".toList := by
      decide
    exact wider digit (mem_of_mem_hexadecimal member)

/-- A character stands for itself or is escaped. -/
theorem writeCharacter_eq_or (character : Char) :
    writeCharacter character = [character] ∨ IsEscape (writeCharacter character) := by
  unfold writeCharacter
  split
  · exact .inr (isEscape_letter (by decide))
  split
  · exact .inr (isEscape_letter (by decide))
  split
  · exact .inr (isEscape_letter (by decide))
  split
  · exact .inr (isEscape_letter (by decide))
  split
  · exact .inr (isEscape_letter (by decide))
  split
  · exact .inr (isEscape_letter (by decide))
  split
  · exact .inr (isEscape_letter (by decide))
  split
  · exact .inl rfl
  · exact .inr (isEscape_pointEscape character.toNat)

/-! ## Accounts that an escape begins -/

/-- Written as JSON, the text shows an account whose ARN begins with the last digit of an escape. -/
def BeginsInEscape (text : List Char) : Prop :=
  ∃ first character found rest, text = first ++ character :: (found ++ rest) ∧
    IsEscape (writeCharacter character) ∧ (writeCharacter character).getLast? = some 'a' ∧
    (∀ character ∈ found, writeCharacter character = [character]) ∧
    accountPattern.Matches ('a' :: found)

theorem BeginsInEscape.cons {text : List Char} (begins : BeginsInEscape text) (character : Char) :
    BeginsInEscape (character :: text) := by
  rcases begins with ⟨first, escaped, found, rest, rfl, begins⟩
  exact ⟨character :: first, escaped, found, rest, rfl, begins⟩

private theorem occursIn_flatMap_of_beginsInEscape {text : List Char}
    (begins : BeginsInEscape text) : accountPattern.OccursIn (text.flatMap writeCharacter) := by
  rcases begins with ⟨first, character, found, rest, rfl, -, ends, unescaped, matched⟩
  have same : found.flatMap writeCharacter = found := by
    rw [List.flatMap_congr unescaped]
    simp
  rcases List.getLast?_eq_some_iff.mp ends with ⟨opening, whole⟩
  refine ⟨'a' :: found, ⟨first.flatMap writeCharacter ++ opening, rest.flatMap writeCharacter, ?_⟩,
    matched⟩
  simp [List.flatMap_append, whole, same]

/-- What stands in written text without a backslash stands in the text itself. -/
private theorem prefix_of_prefix_flatMap {part text : List Char} (noEscape : '\\' ∉ part)
    (isPrefix : part <+: text.flatMap writeCharacter) :
    part <+: text ∧ ∀ character ∈ part, writeCharacter character = [character] := by
  induction text generalizing part with
  | nil =>
      rw [List.prefix_nil.mp isPrefix]
      exact ⟨List.nil_prefix, nofun⟩
  | cons character text induction =>
      cases part with
      | nil => exact ⟨List.nil_prefix, nofun⟩
      | cons head part =>
          rw [List.flatMap_cons] at isPrefix
          rcases writeCharacter_eq_or character with same | ⟨letter, digits, written, -, -⟩
          · rw [same, List.singleton_append] at isPrefix
            rcases List.cons_prefix_cons.mp isPrefix with ⟨rfl, partPrefix⟩
            rcases induction (fun member => noEscape (.tail _ member)) partPrefix with
              ⟨inText, unescaped⟩
            exact ⟨List.cons_prefix_cons.mpr ⟨rfl, inText⟩,
              List.forall_mem_cons.mpr ⟨same, unescaped⟩⟩
          · rw [written] at isPrefix
            rcases List.cons_prefix_cons.mp isPrefix with ⟨rfl, -⟩
            exact absurd (.head _) noEscape

private theorem exists_begin_of_matches {found : List Char}
    (matched : accountPattern.Matches found) : ∃ first second others,
      found = first :: second :: others ∧ Text.folded first = 'a' ∧ Text.folded second = 'r' := by
  rcases matched with ⟨word, rest, rfl, folds, -⟩
  rcases List.map_eq_cons_iff.mp folds with ⟨first, others, rfl, firstFolds, folds⟩
  rcases List.map_eq_cons_iff.mp folds with ⟨second, others, rfl, secondFolds, -⟩
  exact ⟨first, second, others ++ rest, rfl, firstFolds, secondFolds⟩

private theorem backslash_not_mem {found : List Char} (matched : accountPattern.Matches found) :
    '\\' ∉ found := fun member =>
  absurd (Piece.AcceptsRow.admits matched '\\' member) (by decide)

/-- Of an account that begins inside an escape, the escape has the first letter alone. -/
private theorem eq_of_suffix_of_matches {letter : Char} {digits part others : List Char}
    (isLetter : letter ∈ "\"\\nrtbfu".toList)
    (areDigits : ∀ digit ∈ digits, digit ∈ "0123456789abcdef\\u".toList)
    (isSuffix : part <:+ letter :: digits) (nonempty : part ≠ [])
    (matched : accountPattern.Matches (part ++ others)) : part = ['a'] := by
  have firstLetter : ∀ character ∈ "\"\\nrtbfu".toList ++ "0123456789abcdef\\u".toList,
      Text.folded character = 'a' → character = 'a' := by
    decide
  have secondLetter : ∀ character ∈ "0123456789abcdef\\u".toList,
      Text.folded character ≠ 'r' := by
    decide
  rcases exists_begin_of_matches matched with ⟨first, second, others, equal, isFirst, isSecond⟩
  match part, nonempty with
  | [only], _ =>
      rcases List.cons.inj equal with ⟨rfl, -⟩
      have member : only ∈ letter :: digits := isSuffix.subset (.head _)
      rw [firstLetter only ?_ isFirst]
      rcases List.mem_cons.mp member with rfl | member
      · exact List.mem_append_left _ isLetter
      · exact List.mem_append_right _ (areDigits only member)
  | _ :: next :: more, _ =>
      rcases List.cons.inj (List.cons.inj equal).2 with ⟨rfl, -⟩
      -- Behind the first letter of the escape there is no letter of an ARN's second.
      have member : next ∈ digits := by
        rcases isSuffix with ⟨before, whole⟩
        cases before with
        | nil =>
            rw [← (List.cons.inj whole).2]
            exact .head _
        | cons head before =>
            rw [← (List.cons.inj whole).2]
            simp
      exact absurd isSecond (secondLetter next (areDigits next member))

/-- An account that begins at a character without an escape begins there in the text itself. -/
private theorem occursIn_of_unescaped {character : Char} {text : List Char}
    (occurs : accountPattern.OccursIn (character :: text.flatMap writeCharacter)) :
    accountPattern.OccursIn (character :: text) ∨
      accountPattern.OccursIn (text.flatMap writeCharacter) := by
  rcases occurs with ⟨found, inWritten, matched⟩
  rcases List.infix_cons_iff.mp inWritten with begins | inside
  · rcases List.prefix_cons_iff.mp begins with rfl | ⟨part, rfl, isPrefix⟩
    · exact .inl ⟨[], List.nil_infix, matched⟩
    · have noEscape := fun member => backslash_not_mem matched (.tail _ member)
      have inText := (prefix_of_prefix_flatMap noEscape isPrefix).1
      exact .inl ⟨_, (List.cons_prefix_cons.mpr ⟨rfl, inText⟩).isInfix, matched⟩
  · exact .inr ⟨found, inside, matched⟩

/-- An account that begins at an escaped character begins with the last digit of the escape. -/
private theorem beginsInEscape_of_escaped {character : Char} {text : List Char}
    (escape : IsEscape (writeCharacter character))
    (occurs : accountPattern.OccursIn
      (writeCharacter character ++ text.flatMap writeCharacter)) :
    BeginsInEscape (character :: text) ∨
      accountPattern.OccursIn (text.flatMap writeCharacter) := by
  rcases id escape with ⟨letter, digits, written, isLetter, areDigits⟩
  rw [written, List.cons_append, Pattern.occursIn_cons_iff (by decide) (by decide)] at occurs
  rcases occurs with ⟨found, inWritten, matched⟩
  rcases List.infix_append_iff.mp inWritten with
    inEscape | inside | ⟨part, others, rfl, isSuffix, isPrefix⟩
  · have noColon : ':' ∉ letter :: digits := by
      intro member
      rcases List.mem_cons.mp member with rfl | member
      · exact absurd isLetter (by decide)
      · exact absurd (areDigits ':' member) (by decide)
    exact absurd ⟨found, inEscape, matched⟩ (not_occursIn_of_no_colon noColon)
  · exact .inr ⟨found, inside, matched⟩
  · by_cases empty : part = []
    · rw [empty, List.nil_append] at matched
      exact .inr ⟨others, isPrefix.isInfix, matched⟩
    · have isFirst := eq_of_suffix_of_matches isLetter areDigits isSuffix empty matched
      subst isFirst
      have noEscape := fun member => backslash_not_mem matched (.tail _ member)
      rcases prefix_of_prefix_flatMap noEscape isPrefix with ⟨⟨rest, rfl⟩, unescaped⟩
      refine .inl ⟨[], character, others, rest, rfl, escape, ?_, unescaped, matched⟩
      rcases isSuffix with ⟨before, whole⟩
      rw [written, ← whole, ← List.cons_append, List.getLast?_concat]

/-- Written text shows an account if the text itself does or an escape begins one. -/
theorem occursIn_flatMap_writeCharacter {text : List Char}
    (occurs : accountPattern.OccursIn (text.flatMap writeCharacter)) :
    accountPattern.OccursIn text ∨ BeginsInEscape text := by
  induction text with
  | nil => exact .inl occurs
  | cons character text induction =>
      have later : accountPattern.OccursIn (text.flatMap writeCharacter) →
          accountPattern.OccursIn (character :: text) ∨ BeginsInEscape (character :: text) :=
        fun occurs => (induction occurs).imp (·.mono (List.suffix_cons ..).isInfix) (·.cons _)
      rw [List.flatMap_cons] at occurs
      rcases writeCharacter_eq_or character with same | escape
      · rw [same, List.singleton_append] at occurs
        exact (occursIn_of_unescaped occurs).elim .inl later
      · exact (beginsInEscape_of_escaped escape occurs).elim .inr later

theorem occursIn_writeText_iff (text : String) :
    accountPattern.OccursIn (writeText text) ↔
      accountPattern.OccursIn (text.toList.flatMap writeCharacter) := by
  have nothing : ¬accountPattern.OccursIn [] := Pattern.not_occursIn_nil (by decide)
  rw [writeText, Pattern.occursIn_cons_iff (by decide) (by decide),
    Pattern.occursIn_append_cons_iff (by decide), or_iff_left nothing]

/-! ## Redacted text -/

theorem not_occursIn_redact {pattern : Pattern} (member : pattern ∈ patterns) (text : String) :
    ¬pattern.OccursIn (redact text).toList := by
  rw [redact, String.toList_ofList]
  exact not_occursIn_redactFields (fun _ => isName_of_sensitive) member text.toList

/-- Redacted text shows an account only if an escape begins it. -/
theorem occursIn_writeText_redact_iff (text : String) :
    accountPattern.OccursIn (writeText (redact text)) ↔
      BeginsInEscape (redact text).toList := by
  rw [occursIn_writeText_iff]
  constructor
  · intro occurs
    exact (occursIn_flatMap_writeCharacter occurs).resolve_left
      (not_occursIn_redact (by simp [patterns]) text)
  · exact occursIn_flatMap_of_beginsInEscape

/-! ## Characters of redacted text -/

/-- The character is not escaped, or the last digit of its escape begins no ARN. -/
def IsInert (character : Char) : Prop :=
  writeCharacter character = [character] ∨ (writeCharacter character).getLast? ≠ some 'a'

instance (character : Char) : Decidable (IsInert character) := inferInstanceAs (Decidable (_ ∨ _))

theorem not_beginsInEscape {text : List Char} (inert : ∀ character ∈ text, IsInert character) :
    ¬BeginsInEscape text := by
  rintro ⟨first, character, found, rest, rfl, escape, ends, -, -⟩
  rcases inert character (by simp) with same | other
  · rcases escape with ⟨letter, digits, written, -, -⟩
    rw [same] at written
    exact nomatch (List.cons.inj written).2
  · exact other ends

/-- What is written instead of a finding has characters of a kind, where the text has only such. -/
private theorem forall_mem_replaceFrom {find : Finder} {holds : Char → Prop}
    (isSound : find.IsSound)
    (written : ∀ before text finding, find before text = some finding →
      ∀ character ∈ finding.replacement, character ∈ text ∨ holds character)
    {text : List Char} (all : ∀ character ∈ text, holds character) (before : Option Char) :
    ∀ character ∈ find.replaceFrom before 0 text, holds character := by
  induction before, text using Finder.scan_induction isSound with
  | atEnd before text passes => rwa [passes.replaceFrom_self]
  | atFinding before first taken rest finding passes found size induction =>
      rw [passes.replaceFrom_of_found isSound found size]
      rw [List.forall_mem_append] at all
      rw [List.forall_mem_append, List.forall_mem_append]
      refine ⟨⟨all.1, fun character member => ?_⟩,
        induction fun character member => all.2 character (List.mem_append_right _ member)⟩
      exact (written _ _ _ found character member).elim (all.2 character) id

/-- What can be seen on its own has no escape that ends like that. -/
theorem isInert_of_visible {character : Char} (low : 0x20 ≤ character.toNat)
    (high : character.toNat < 0x7f) : IsInert character := by
  have visible : ∀ small : Nat, small < 0x7f → 0x20 ≤ small → IsInert (Char.ofNat small) := by
    decide
  simpa using visible character.toNat high low

theorem isInert_of_isLowerLetter {character : Char} (isLower : Text.isLowerLetter character) :
    IsInert character := by
  rcases Bool.and_eq_true_iff.mp isLower with ⟨low, high⟩
  have low : 97 ≤ character.toNat := of_decide_eq_true low
  have high : character.toNat ≤ 122 := of_decide_eq_true high
  exact isInert_of_visible (by omega) (by omega)

theorem isInert_of_isNameCharacter {character : Char}
    (isName : Text.isNameCharacter character) : IsInert character := by
  rcases Bool.or_eq_true_iff.mp isName with letterOrDigit | hyphen
  · rcases Bool.or_eq_true_iff.mp letterOrDigit with letter | digit
    · exact isInert_of_isLowerLetter letter
    · rcases Bool.and_eq_true_iff.mp digit with ⟨low, high⟩
      have low : 48 ≤ character.toNat := of_decide_eq_true low
      have high : character.toNat ≤ 57 := of_decide_eq_true high
      exact isInert_of_visible (by omega) (by omega)
  · rw [of_decide_eq_true hyphen]
    decide

private theorem isInert_of_mem_mark : ∀ character ∈ mark.toList, IsInert character := by
  decide

private theorem IsName.isInert {field : String} (isName : IsName field) :
    ∀ character ∈ field.toList, IsInert character := by
  intro character member
  rcases Bool.or_eq_true_iff.mp (isName.letters character member) with lower | underscore
  · exact isInert_of_isLowerLetter lower
  · rw [of_decide_eq_true underscore]
    decide

private theorem isInert_replacement_of_findPattern {pattern : Pattern} {before : Option Char}
    {text : List Char} {finding : Finding}
    (found : findPattern pattern before text = some finding) :
    ∀ character ∈ finding.replacement, character ∈ text ∨ IsInert character := by
  rcases exists_cut_of_findPattern found with ⟨lead, secret, rest, rfl, -, -, rfl⟩
  intro character member
  rcases List.mem_append.mp member with kept | written
  · exact .inl (List.mem_append_left _ (List.mem_append_left _ kept))
  · exact .inr (isInert_of_mem_mark character written)

private theorem IsName.isInert_replacement {field : String} (isName : IsName field)
    {before : Option Char} {text : List Char} {finding : Finding}
    (found : findField field before text = some finding) :
    ∀ character ∈ finding.replacement, character ∈ text ∨ IsInert character := by
  rw [replacement_of_found found, List.forall_mem_append, List.forall_mem_append]
  have separators : ∀ character ∈ [':', ' '], IsInert character := by decide
  exact ⟨⟨fun character member => .inr (isName.isInert character member),
    fun character member => .inr (separators character member)⟩,
    fun character member => .inr (isInert_of_mem_mark character member)⟩

/-- Redacting brings in no character whose escape may begin an account. -/
theorem isInert_redact {text : String} (inert : ∀ character ∈ text.toList, IsInert character) :
    ∀ character ∈ (redact text).toList, IsInert character := by
  rw [redact, String.toList_ofList, redactFields]
  refine List.foldlRecOn (motive := fun text => ∀ character ∈ text, IsInert character) _ _
    (List.foldlRecOn (motive := fun text => ∀ character ∈ text, IsInert character) _ _ inert ?_) ?_
  · intro text inert pattern member
    exact forall_mem_replaceFrom (isThorough_of_mem member).isSound
      (fun _ _ _ found => isInert_replacement_of_findPattern found) inert none
  · intro text inert field member
    have isName := isName_of_sensitive member
    exact forall_mem_replaceFrom isName.isSound
      (fun _ _ _ found => isName.isInert_replacement found) inert none

end BucketGuard.Redaction
