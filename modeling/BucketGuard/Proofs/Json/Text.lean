import BucketGuard.Json.Printer
import BucketGuard.Json.Reader

namespace BucketGuard.Json

/-! Written text reads back. Every character is written as its UTF-16 units in some form, and
reading gives these units, which join to the character again. So different texts are written
differently. -/

/-! ## Escapes -/

private theorem hexadecimalDigit?_digitChar :
    ∀ digit : Fin 16, hexadecimalDigit? (Nat.digitChar digit) = some digit.val := by decide

/-- A unit in hexadecimal is its four digits. -/
theorem hexadecimal_four (unit : Nat) (bound : unit < 0x10000) :
    Text.hexadecimal 4 unit =
      [Nat.digitChar (unit / 4096), Nat.digitChar (unit / 256 % 16),
        Nat.digitChar (unit / 16 % 16), Nat.digitChar (unit % 16)] := by
  have step (number : Nat) (large : 16 ≤ number) :
      Nat.toDigits 16 number = Nat.toDigits 16 (number / 16) ++ [Nat.digitChar (number % 16)] :=
    Nat.toDigits_of_base_le (by decide) large
  have last (number : Nat) (small : number < 16) : Nat.toDigits 16 number = [number.digitChar] :=
    Nat.toDigits_of_lt_base small
  have zero (number : Nat) (none : number = 0) : Nat.digitChar number = '0' := by
    subst none; rfl
  by_cases one : unit < 16
  · rw [Text.hexadecimal, last unit one, zero (unit / 4096) (by omega),
      zero (unit / 256 % 16) (by omega), zero (unit / 16 % 16) (by omega), Nat.mod_eq_of_lt one]
    rfl
  rw [Text.hexadecimal, step unit (by omega)]
  by_cases two : unit / 16 < 16
  · rw [last _ two, zero (unit / 4096) (by omega), zero (unit / 256 % 16) (by omega),
      Nat.mod_eq_of_lt two]
    rfl
  rw [step (unit / 16) (by omega), Nat.div_div_eq_div_mul]
  by_cases three : unit / 256 < 16
  · rw [last _ three, zero (unit / 4096) (by omega), Nat.mod_eq_of_lt three]
    rfl
  rw [step (unit / (16 * 16)) (by omega), Nat.div_div_eq_div_mul,
    last (unit / (16 * 16 * 16)) (by omega)]
  rfl

private theorem unit?_digits (unit : Nat) (bound : unit < 0x10000) :
    unit? (Nat.digitChar (unit / 4096)) (Nat.digitChar (unit / 256 % 16))
      (Nat.digitChar (unit / 16 % 16)) (Nat.digitChar (unit % 16)) = some unit := by
  have digit (number : Nat) (small : number < 16) :
      hexadecimalDigit? (Nat.digitChar number) = some number :=
    hexadecimalDigit?_digitChar ⟨number, small⟩
  rw [unit?, digit (unit / 4096) (by omega), digit (unit / 256 % 16) (by omega),
    digit (unit / 16 % 16) (by omega), digit (unit % 16) (by omega)]
  change some (((unit / 4096 * 16 + unit / 256 % 16) * 16 + unit / 16 % 16) * 16 + unit % 16) = _
  congr 1
  omega

/-- What was read, with a few units before it. -/
private abbrev unitsBefore (units : List Nat) (reading : Except ReadFault (List Nat × List Char)) :
    Except ReadFault (List Nat × List Char) :=
  reading.map fun (others, remaining) => (units ++ others, remaining)

private theorem readUnits_unitEscape (opening : List Char) {unit : Nat} (bound : unit < 0x10000)
    {rest : List Char} (more : rest ≠ []) :
    readUnits opening (unitEscape unit ++ rest) =
      unitsBefore [unit] (readUnits opening rest) := by
  rcases List.exists_cons_of_ne_nil more with ⟨next, after, rfl⟩
  rw [unitEscape, hexadecimal_four unit bound]
  simp only [List.cons_append, List.nil_append, readUnits, unit?_digits unit bound]
  rfl

/-! ## Characters -/

/-- The UTF-16 units of a character. -/
private def unitsOf (character : Char) : List Nat :=
  if character.toNat < 0x10000 then [character.toNat]
  else
    [0xd800 + (character.toNat - 0x10000) / 0x400, 0xdc00 + (character.toNat - 0x10000) % 0x400]

theorem toNat_bounds (character : Char) :
    character.toNat < 0xd800 ∨ (0xdfff < character.toNat ∧ character.toNat < 0x110000) :=
  character.valid

private theorem readUnits_unitEscapes (opening : List Char) {high low : Nat}
    (highBound : high < 0x10000) (lowBound : low < 0x10000) {rest : List Char}
    (more : rest ≠ []) :
    readUnits opening (unitEscape high ++ (unitEscape low ++ rest)) =
      unitsBefore [high, low] (readUnits opening rest) := by
  rw [readUnits_unitEscape opening highBound (by simp [unitEscape]),
    readUnits_unitEscape opening lowBound more]
  cases readUnits opening rest <;> rfl

private theorem readUnits_pointEscape (opening : List Char) (character : Char)
    {rest : List Char} (more : rest ≠ []) :
    readUnits opening (pointEscape character.toNat ++ rest) =
      unitsBefore (unitsOf character) (readUnits opening rest) := by
  by_cases narrow : character.toNat < 0x10000
  · rw [pointEscape, if_pos narrow, unitsOf, if_pos narrow]
    exact readUnits_unitEscape opening narrow more
  · rw [pointEscape, if_neg narrow, unitsOf, if_neg narrow, List.append_assoc]
    have bounds := toNat_bounds character
    exact readUnits_unitEscapes opening (by omega) (by omega) more

private theorem readUnits_plain (opening rest : List Char) {character : Char}
    (visible : 0x20 ≤ character.toNat) (noQuote : character ≠ '"') (noSlash : character ≠ '\\') :
    readUnits opening (character :: rest) =
      unitsBefore [character.toNat] (readUnits opening rest) := by
  rw [readUnits]
  · rw [if_neg (by omega)]
    rfl
  · exact fun quote => noQuote quote
  · exact fun slash => noSlash slash

private theorem readUnits_writeCharacter (opening : List Char) (character : Char)
    {rest : List Char} (more : rest ≠ []) :
    readUnits opening (writeCharacter character ++ rest) =
      unitsBefore (unitsOf character) (readUnits opening rest) := by
  unfold writeCharacter
  -- The short escapes are read back by the clauses for them.
  by_cases quote : character = '"'
  · subst quote; rfl
  by_cases slash : character = '\\'
  · subst slash; rfl
  by_cases lineFeed : character = '\n'
  · subst lineFeed; rfl
  by_cases return_ : character = '\r'
  · subst return_; rfl
  by_cases tab : character = '\t'
  · subst tab; rfl
  by_cases backspace : character = '\x08'
  · subst backspace; rfl
  by_cases formFeed : character = '\x0c'
  · subst formFeed; rfl
  simp only [quote, slash, lineFeed, return_, tab, backspace, formFeed, if_false]
  by_cases visible : 0x20 ≤ character.toNat ∧ character.toNat < 0x7f
  · have narrow : character.toNat < 0x10000 := by omega
    rw [if_pos visible, unitsOf, if_pos narrow]
    exact readUnits_plain opening rest visible.1 quote slash
  · rw [if_neg visible]
    exact readUnits_pointEscape opening character more

/-! ## Texts -/

private theorem readUnits_flatMap (opening characters rest : List Char) :
    readUnits opening (characters.flatMap writeCharacter ++ '"' :: rest) =
      .ok (characters.flatMap unitsOf, rest) := by
  induction characters with
  | nil => rfl
  | cons character others induction =>
      rw [List.flatMap_cons, List.append_assoc,
        readUnits_writeCharacter opening character (by simp), induction]
      rfl

private theorem joinUnits_unitsOf (character : Char) (units : List Nat) :
    joinUnits (unitsOf character ++ units) = character :: joinUnits units := by
  have bounds := toNat_bounds character
  by_cases narrow : character.toNat < 0x10000
  · have whole : isHighHalf character.toNat = false ∧ isLowHalf character.toNat = false := by
      simp only [isHighHalf, isLowHalf, Bool.and_eq_false_iff, decide_eq_false_iff_not]
      omega
    have read : unitCharacter character.toNat = character := by
      simp [unitCharacter, whole.1, whole.2]
    rw [unitsOf, if_pos narrow]
    cases units with
    | nil => simp [joinUnits, read]
    | cons next others => simp [joinUnits, whole.1, read]
  · have high : isHighHalf (0xd800 + (character.toNat - 0x10000) / 0x400) = true := by
      simp only [isHighHalf, Bool.and_eq_true, decide_eq_true_eq]
      omega
    have low : isLowHalf (0xdc00 + (character.toNat - 0x10000) % 0x400) = true := by
      simp only [isLowHalf, Bool.and_eq_true, decide_eq_true_eq]
      omega
    have joined : 0x10000 + (0xd800 + (character.toNat - 0x10000) / 0x400 - 0xd800) * 0x400 +
        (0xdc00 + (character.toNat - 0x10000) % 0x400 - 0xdc00) = character.toNat := by
      omega
    rw [unitsOf, if_neg narrow]
    simp only [List.cons_append, List.nil_append, joinUnits, high, low, Bool.and_true, if_true,
      joined, Char.ofNat_toNat]

private theorem joinUnits_flatMap (characters : List Char) :
    joinUnits (characters.flatMap unitsOf) = characters := by
  induction characters with
  | nil => rfl
  | cons character others induction =>
      rw [List.flatMap_cons, joinUnits_unitsOf, induction]

/-- Behind its opening quote a written text reads back, and nothing after it is touched. -/
theorem readText_writeText (text : String) (rest : List Char) :
    readText (text.toList.flatMap writeCharacter ++ '"' :: rest) = .ok (text, rest) := by
  rw [readText, readUnits_flatMap]
  simp only [Except.map, joinUnits_flatMap, String.ofList_toList]

theorem writeText_injective {left right : String} (equal : writeText left = writeText right) :
    left = right := by
  have bodies : left.toList.flatMap writeCharacter ++ ['"'] =
      right.toList.flatMap writeCharacter ++ ['"'] := (List.cons.inj equal).2
  have leftRead := readText_writeText left []
  rw [bodies, readText_writeText right []] at leftRead
  exact (congrArg Prod.fst (Except.ok.inj leftRead)).symm

end BucketGuard.Json
