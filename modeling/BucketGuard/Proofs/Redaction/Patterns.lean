import BucketGuard.Proofs.Redaction.Occurrence

namespace BucketGuard.Redaction

/-! What the passes leave of the patterns. Behind its own pass nothing of a pattern is left, and no
other pass writes a text of it: the mark holds characters that no pattern admits, and what is kept
beside it stood there before, up to the case of its letters. -/

-- Every character of a text, and not every character, whatever else is imported.
attribute [local instance (2000)] List.decidableBAll

variable {pattern : Pattern} {before : Option Char} {text : List Char} {finding : Finding}

/-! ## Findings -/

theorem exists_cut_of_findPattern (found : findPattern pattern before text = some finding) :
    ∃ lead secret rest, text = lead ++ secret ++ rest ∧ Piece.AcceptsRow pattern.lead lead ∧
      pattern.secret.Accepts secret ∧
      finding = {
        length := (lead ++ secret).length
        replacement := lead ++ mark.toList } := by
  rcases Option.bind_eq_some_iff.mp found with ⟨leadLength, ofLead, found⟩
  rcases Option.bind_eq_some_iff.mp found with ⟨secretLength, ofSecret, equal⟩
  rcases Piece.acceptsRow_of_totalLength? ofLead with ⟨enough, leadAccepted⟩
  rcases Piece.accepts_of_length? ofSecret with ⟨enoughBehind, secretAccepted⟩
  refine ⟨text.take leadLength, (text.drop leadLength).take secretLength,
    (text.drop leadLength).drop secretLength, ?_, leadAccepted, secretAccepted, ?_⟩
  · rw [List.append_assoc, List.take_append_drop, List.take_append_drop]
  · cases equal
    rw [List.length_append, List.length_take_of_le enough, List.length_take_of_le enoughBehind]

/-! ## What the redaction relies on in a pattern -/

structure IsThorough (pattern : Pattern) : Prop where
  apart : pattern.row.IsChain Piece.SetApart
  ignoresCase : ∀ piece ∈ pattern.row, Text.IgnoresCase piece.admits
  opening : pattern.admits '[' = false
  closing : pattern.admits ']' = false
  longer : mark.length < pattern.least
  secretNonempty : 0 < pattern.secret.least
  secretAfter : ∀ character ∈ [':', ' '], pattern.secret.admits character = false
  /-- No text of the pattern is cut short in front of its secret. -/
  leadFree : ∀ lead, Piece.AcceptsRow pattern.lead lead → ¬pattern.OccursIn lead

namespace IsThorough

theorem positive (thorough : IsThorough pattern) : 0 < pattern.least :=
  Nat.zero_lt_of_lt thorough.longer

theorem findPattern_ne_none (thorough : IsThorough pattern) {first : List Char}
    (accepted : pattern.Matches first) (before : Option Char) (rest : List Char) :
    findPattern pattern before (first ++ rest) ≠ none := by
  rcases Pattern.matches_iff.mp accepted with ⟨lead, secret, rfl, ofLead, ofSecret⟩
  rcases ofSecret.exists_length? rest with ⟨length, secretTaken⟩
  have leadTaken := ofLead.totalLength?_append thorough.apart ofSecret rest
  rw [List.append_assoc]
  simp [findPattern, leadTaken, secretTaken]

theorem isSound (thorough : IsThorough pattern) : (findPattern pattern).IsSound := by
  intro before text finding found
  rcases exists_cut_of_findPattern found with ⟨lead, secret, rest, rfl, -, ofSecret, rfl⟩
  have positive := thorough.secretNonempty.trans_le ofSecret.least_le
  simp only [List.length_append]
  omega

/-- No text of the pattern goes over a mark. -/
theorem occursIn_append_mark_iff (thorough : IsThorough pattern) {first second : List Char} :
    pattern.OccursIn (first ++ mark.toList ++ second) ↔
      pattern.OccursIn first ∨ pattern.OccursIn second := by
  have cut : first ++ mark.toList ++ second =
      first ++ '[' :: ("REDACTED".toList ++ ']' :: second) := by
    simp [mark]
  have short : ¬pattern.OccursIn "REDACTED".toList := fun occurs =>
    absurd (thorough.longer.trans_le occurs.least_le) (by decide)
  rw [cut, Pattern.occursIn_append_cons_iff thorough.opening,
    Pattern.occursIn_append_cons_iff thorough.closing, or_iff_right short]

theorem occursIn_of_map_folded_eq (thorough : IsThorough pattern) {other : List Char}
    (equal : text.map Text.folded = other.map Text.folded) (occurs : pattern.OccursIn text) :
    pattern.OccursIn other := by
  rw [← Pattern.occursIn_map_folded thorough.ignoresCase] at occurs ⊢
  rwa [← equal]

/-! ## The pass for the pattern -/

/-- Where nothing is found that begins in the first part, a text of the pattern would have to stand
in the second. -/
theorem not_occursIn_of_passes (thorough : IsThorough pattern) {first kept rest : List Char}
    (passes : (findPattern pattern).Passes before first (kept ++ rest))
    (free : ¬pattern.OccursIn kept) : ¬pattern.OccursIn (first ++ kept) := by
  have positive := thorough.positive
  rintro ⟨found, inText, accepted⟩
  rcases List.infix_append_iff.mp inText with
    ⟨left, right, rfl⟩ | inKept | ⟨left, right, rfl, ⟨ahead, rfl⟩, ⟨behind, rfl⟩⟩
  · rw [List.append_assoc] at passes
    have none := passes.eq_none
      (List.append_ne_nil_of_left_ne_nil (accepted.ne_nil positive) right)
    rw [List.append_assoc] at none
    exact thorough.findPattern_ne_none accepted _ _ none
  · exact free ⟨found, inKept, accepted⟩
  · cases left with
    | nil => exact free ⟨right, (List.prefix_append ..).isInfix, accepted⟩
    | cons character left =>
        have none := passes.eq_none (List.cons_ne_nil character left)
        rw [List.append_assoc right, ← List.append_assoc] at none
        exact thorough.findPattern_ne_none accepted _ _ none

theorem not_occursIn_own (thorough : IsThorough pattern) (before : Option Char)
    (text : List Char) :
    ¬pattern.OccursIn ((findPattern pattern).replaceFrom before 0 text) := by
  induction before, text using Finder.scan_induction thorough.isSound with
  | atEnd before text passes =>
      have absent := thorough.not_occursIn_of_passes passes
        (Pattern.not_occursIn_nil thorough.positive)
      rwa [List.append_nil, ← passes.replaceFrom_self] at absent
  | atFinding before first taken rest finding passes found size induction =>
      rw [passes.replaceFrom_of_found thorough.isSound found size]
      rcases exists_cut_of_findPattern found with ⟨lead, secret, behind, cut, ofLead, -, rfl⟩
      rw [← List.append_assoc, thorough.occursIn_append_mark_iff, not_or]
      refine ⟨?_, induction⟩
      rw [cut, List.append_assoc] at passes
      exact thorough.not_occursIn_of_passes passes (thorough.leadFree lead ofLead)

end IsThorough

theorem replaceIn_of_not_occursIn (absent : ¬pattern.OccursIn text) :
    (findPattern pattern).replaceIn text = text := by
  rcases (findPattern pattern).exists_passes none text with ⟨first, second, rfl, passes, ends⟩
  rw [Finder.replaceIn, passes.replaceFrom_eq]
  rcases ends with rfl | ⟨finding, found⟩
  · rfl
  · rcases exists_cut_of_findPattern found with ⟨lead, secret, rest, rfl, ofLead, ofSecret, -⟩
    refine absurd ⟨lead ++ secret, List.infix_append' .., ?_⟩ absent
    exact Pattern.matches_iff.mpr ⟨lead, secret, rfl, ofLead, ofSecret⟩

/-! ## The other passes -/

/-- In front of the mark, what is found leaves nothing that makes a text of the pattern. -/
def KeepsOut (pattern : Pattern) (find : Finder) : Prop :=
  ∀ before text finding, find before text = some finding → ∃ kept,
    finding.replacement = kept ++ mark.toList ∧
      ∀ first, pattern.OccursIn (first ++ kept) →
        pattern.OccursIn (first ++ text.take finding.length)

theorem KeepsOut.not_occursIn {find : Finder} (keepsOut : KeepsOut pattern find)
    (isSound : find.IsSound) (thorough : IsThorough pattern) (absent : ¬pattern.OccursIn text)
    (before : Option Char) : ¬pattern.OccursIn (find.replaceFrom before 0 text) := by
  induction before, text using Finder.scan_induction isSound with
  | atEnd before text passes => rwa [passes.replaceFrom_self]
  | atFinding before first taken rest finding passes found size induction =>
      rcases keepsOut _ _ _ found with ⟨kept, replacement, occursBefore⟩
      rw [size, List.take_left] at occursBefore
      rw [passes.replaceFrom_of_found isSound found size, replacement, ← List.append_assoc,
        thorough.occursIn_append_mark_iff, not_or]
      rw [← List.append_assoc] at absent
      exact ⟨fun occurs => absent ((occursBefore first occurs).mono
          (List.prefix_append ..).isInfix),
        induction fun occurs => absent (occurs.mono (List.suffix_append ..).isInfix)⟩

theorem keepsOut_findPattern (pattern other : Pattern) : KeepsOut pattern (findPattern other) := by
  intro before text finding found
  rcases exists_cut_of_findPattern found with ⟨lead, secret, rest, rfl, -, -, rfl⟩
  refine ⟨lead, rfl, fun first occurs => ?_⟩
  rw [List.take_left]
  exact occurs.mono ((List.prefix_append_right_inj first).mpr (List.prefix_append ..)).isInfix

theorem IsName.keepsOut {field : String} (isName : IsName field)
    (thorough : IsThorough pattern) : KeepsOut pattern (findField field) := by
  intro before text finding found
  rcases findField_eq_some_iff.mp found with
    ⟨-, written, rest, announced, rfl, folds, -, rfl⟩
  refine ⟨field.toList ++ [':', ' '], rfl, fun first occurs => ?_⟩
  have colon := thorough.secretAfter ':' (by simp)
  have blank := thorough.secretAfter ' ' (by simp)
  have cut : first ++ (field.toList ++ [':', ' ']) = first ++ field.toList ++ [':'] ++ [' '] := by
    simp
  rw [cut, Pattern.occursIn_concat_iff thorough.secretNonempty blank,
    Pattern.occursIn_concat_iff thorough.secretNonempty colon] at occurs
  have sameLetters : (first ++ field.toList).map Text.folded =
      (first ++ written).map Text.folded := by
    rw [List.map_append, List.map_append, folds, isName.map_folded]
  refine (thorough.occursIn_of_map_folded_eq sameLetters occurs).mono ?_
  rw [List.take_length_add_append, ← List.append_assoc]
  exact (List.prefix_append ..).isInfix

/-! ## The four patterns -/

/-- A lead holds no text of its pattern if none is in front of its last piece, whose characters the
secret does not admit. -/
private theorem leadFree_of_core {core : List Piece} {last : Piece}
    (leadIs : pattern.lead = core ++ [last]) (positive : 0 < pattern.secret.least)
    (other : ∀ character, last.admits character = true →
      pattern.secret.admits character = false)
    (coreFree : ∀ text, Piece.AcceptsRow core text → ¬pattern.OccursIn text) :
    ∀ lead, Piece.AcceptsRow pattern.lead lead → ¬pattern.OccursIn lead := by
  intro lead accepted
  rw [leadIs, Piece.acceptsRow_append] at accepted
  rcases accepted with ⟨first, ending, rfl, ofCore, ofLast⟩
  rw [Piece.acceptsRow_singleton] at ofLast
  have outside := fun character member => other character (ofLast.admits character member)
  clear ofLast
  induction ending using List.reverseRecOn with
  | nil => rw [List.append_nil]; exact coreFree first ofCore
  | append_singleton ending character induction =>
      rw [← List.append_assoc,
        Pattern.occursIn_concat_iff positive (outside character (by simp))]
      exact induction fun character member => outside character (List.mem_append_left _ member)

/-- The most characters of a text of some pieces, if there is a bound. -/
private def most? : List Piece → Option Nat
  | [] => some 0
  | .word letters :: row => (most? row).map (letters.length + ·)
  | .optional _ :: row => (most? row).map (1 + ·)
  | .exactly count _ :: row => (most? row).map (count + ·)
  | .many _ :: _ | .several _ :: _ => none

private theorem length_le_most? {row : List Piece} {bound : Nat} (found : most? row = some bound)
    (accepted : Piece.AcceptsRow row text) : text.length ≤ bound := by
  induction row generalizing text bound with
  | nil => rw [show text = [] from accepted]; exact Nat.zero_le _
  | cons piece row induction =>
      rcases accepted with ⟨first, others, rfl, ofPiece, ofRow⟩
      rw [List.length_append]
      cases piece with
      | word letters =>
          rcases Option.map_eq_some_iff.mp found with ⟨count, ofOthers, rfl⟩
          have lengths := congrArg List.length ofPiece
          rw [List.length_map] at lengths
          exact Nat.add_le_add lengths.le (induction ofOthers ofRow)
      | optional accepts =>
          rcases Option.map_eq_some_iff.mp found with ⟨count, ofOthers, rfl⟩
          exact Nat.add_le_add ofPiece.1 (induction ofOthers ofRow)
      | exactly size accepts =>
          rcases Option.map_eq_some_iff.mp found with ⟨count, ofOthers, rfl⟩
          exact Nat.add_le_add ofPiece.1.le (induction ofOthers ofRow)
      | many accepts => contradiction
      | several accepts => contradiction

private theorem folded_eq_colon_iff (character : Char) :
    Text.folded character = ':' ↔ character = ':' := by
  have ignores : Text.IgnoresCase (· = ':') := by decide
  simpa using ignores character

/-- How many colons are in a text of the piece, if all its texts have the same number. -/
private def colons? : Piece → Option Nat
  | .word letters => some (letters.count ':')
  | piece => if piece.admits ':' then none else some 0

private theorem count_colon {piece : Piece} {count : Nat} (found : colons? piece = some count)
    (accepted : piece.Accepts text) : text.count ':' = count := by
  cases piece with
  | word letters =>
      cases found
      rw [← show text.map Text.folded = letters from accepted, List.count_eq_countP,
        List.count_eq_countP, List.countP_map]
      exact List.countP_congr fun character _ => by simp [folded_eq_colon_iff]
  | _ =>
      simp only [colons?] at found
      split at found
      · contradiction
      next absent =>
        cases found
        exact List.count_eq_zero_of_not_mem fun member => absent (accepted.admits ':' member)

private def colonsInRow? : List Piece → Option Nat
  | [] => some 0
  | piece :: row => do return (← colons? piece) + (← colonsInRow? row)

private theorem count_colon_of_acceptsRow {row : List Piece} {count : Nat}
    (found : colonsInRow? row = some count) (accepted : Piece.AcceptsRow row text) :
    text.count ':' = count := by
  induction row generalizing text count with
  | nil =>
      cases found
      rw [show text = [] from accepted]
      rfl
  | cons piece row induction =>
      rcases accepted with ⟨first, others, rfl, ofPiece, ofRow⟩
      rcases Option.bind_eq_some_iff.mp found with ⟨own, ofFirst, found⟩
      rcases Option.bind_eq_some_iff.mp found with ⟨later, ofOthers, equal⟩
      cases equal
      rw [List.count_append, count_colon ofFirst ofPiece, induction ofOthers ofRow]

theorem count_colon_of_matches {found : List Char} (matched : accountPattern.Matches found) :
    found.count ':' = 4 :=
  count_colon_of_acceptsRow (by decide) matched

theorem not_occursIn_of_no_colon (absent : ':' ∉ text) : ¬accountPattern.OccursIn text := by
  rintro ⟨found, inText, matched⟩
  have few := inText.sublist.count_le ':'
  rw [count_colon_of_matches matched, List.count_eq_zero_of_not_mem absent] at few
  contradiction

/-- The lead of an account's pattern has too few colons in front of its last one. -/
private theorem leadFree_accountPattern (lead : List Char)
    (accepted : Piece.AcceptsRow accountPattern.lead lead) : ¬accountPattern.OccursIn lead := by
  refine @leadFree_of_core _ (accountPattern.lead.take 6) (.word [':']) rfl (by decide) ?_ ?_ _
    accepted
  · intro character admitted
    rw [(folded_eq_colon_iff character).mp (by simpa [Piece.admits] using admitted)]
    decide
  · rintro text accepted ⟨found, inText, matched⟩
    have few : text.count ':' = 3 := count_colon_of_acceptsRow (by decide) accepted
    have more := inText.sublist.count_le ':'
    rw [count_colon_of_matches matched, few] at more
    contradiction

/-- The characters of tokens are no separators. -/
private theorem isSeparator_of_isTokenCharacter {character : Char}
    (token : isTokenCharacter character = true) : isSeparator character = false := by
  have inAscii : ∀ small : Nat, small < 128 → isTokenCharacter (Char.ofNat small) = true →
      isSeparator (Char.ofNat small) = false := by
    decide
  by_cases letter : isLetter character = true
  · refine (kinds_of_isWrittenLetter ?_).2.1
    rw [isWrittenLetter, isNameLetter, Bool.or_eq_true]
    exact .inl letter
  · have bound : character.toNat < 128 := by
      simp only [isTokenCharacter, isKeyCharacter, letter, Bool.false_or, isDigit,
        Bool.or_eq_true, Bool.and_eq_true, decide_eq_true_eq] at token
      rcases token with ((⟨-, high⟩ | rfl) | rfl) | rfl
      · have : character.toNat ≤ 57 := high
        omega
      all_goals decide
    simpa using inAscii character.toNat bound (by simpa using token)

private theorem isSeparator_of_isKeyCharacter {character : Char}
    (isKey : isKeyCharacter character = true) : isSeparator character = false :=
  isSeparator_of_isTokenCharacter (by simp [isTokenCharacter, isKey])

/-- Between the words of a name a joint may stand. -/
private theorem setApart_joint {letters : List Char} (nonempty : letters ≠ [])
    (others : ∀ letter ∈ letters, isJoint letter = false) :
    (Piece.optional isJoint).SetApart (.word letters) :=
  Piece.setApart_word nonempty (show Text.IgnoresCase isJoint by decide) others

/-- What no character goes on is set apart from whatever comes next. -/
private theorem setApart_of_word (letters : List Char) (next : Piece) :
    (Piece.word letters).SetApart next := Piece.setApart_of_goesOn (fun _ => rfl) next

theorem isThorough_accountPattern : IsThorough accountPattern where
  apart := by
    have colon : ∀ accepts : Char → Bool, Text.IgnoresCase accepts → accepts ':' = false →
        (Piece.many accepts).SetApart (.word [':']) ∧
          (Piece.several accepts).SetApart (.word [':']) := by
      intro accepts ignores other
      exact ⟨Piece.setApart_word (by decide) ignores (by simpa [Piece.goesOn] using other),
        Piece.setApart_word (by decide) ignores (by simpa [Piece.goesOn] using other)⟩
    exact .cons_cons (setApart_of_word _ _) <|
      .cons_cons (colon isLetterOrHyphen (by decide) (by decide)).1 <|
      .cons_cons (setApart_of_word _ _) <|
      .cons_cons (colon isNameCharacter (by decide) (by decide)).2 <|
      .cons_cons (setApart_of_word _ _) <|
      .cons_cons (colon isNameCharacter (by decide) (by decide)).1 <|
      .cons_cons (setApart_of_word _ _) <| .singleton _
  ignoresCase := by decide
  opening := by decide
  closing := by decide
  longer := by decide
  secretNonempty := by decide
  secretAfter := by decide
  leadFree := leadFree_accountPattern

/-- A pattern of names and separators, with a secret that holds no separator. -/
private theorem isThorough_of_names {names : List Piece} {bound : Nat}
    (leadIs : pattern.lead = names ++ [.several isSeparator])
    (apart : pattern.lead.IsChain Piece.SetApart)
    (ignoresCase : ∀ piece ∈ pattern.row, Text.IgnoresCase piece.admits)
    (brackets : ∀ character ∈ ['[', ']'], pattern.admits character = false)
    (longer : mark.length < pattern.least) (positive : 0 < pattern.secret.least)
    (secret : ∀ character, pattern.secret.admits character = true →
      isSeparator character = false)
    (bounded : most? names = some bound) (short : bound < pattern.least) :
    IsThorough pattern := by
  have outside : ∀ character, isSeparator character = true →
      pattern.secret.admits character = false := by
    intro character separates
    cases admitted : pattern.secret.admits character with
    | false => rfl
    | true => rw [secret character admitted] at separates; contradiction
  constructor
  case apart =>
    refine List.isChain_append.mpr ⟨apart, .singleton _, ?_⟩
    rw [leadIs, List.getLast?_concat]
    rintro _ ⟨⟩ _ ⟨⟩
    exact Piece.setApart_of_admits positive secret
  case ignoresCase => exact ignoresCase
  case opening => exact brackets '[' (by decide)
  case closing => exact brackets ']' (by decide)
  case longer => exact longer
  case secretNonempty => exact positive
  case secretAfter =>
    intro character member
    have separates : ∀ character ∈ [':', ' '], isSeparator character = true := by decide
    exact outside character (separates character member)
  case leadFree =>
    refine leadFree_of_core leadIs positive outside fun text accepted occurs => ?_
    have most := length_le_most? bounded accepted
    have least := occurs.least_le
    omega

theorem isThorough_keyIdPattern : IsThorough keyIdPattern := by
  refine @isThorough_of_names _ (keyIdPattern.lead.take 5) 13 rfl ?_ (by decide) (by decide)
    (by decide) (by decide) (fun _ => isSeparator_of_isKeyCharacter) rfl (by decide)
  exact .cons_cons (setApart_of_word _ _) <|
    .cons_cons (setApart_joint (by decide) (by decide)) <|
    .cons_cons (setApart_of_word _ _) <|
    .cons_cons (setApart_joint (by decide) (by decide)) <|
    .cons_cons (setApart_of_word _ _) <| .singleton _

theorem isThorough_secretKeyPattern : IsThorough secretKeyPattern := by
  refine @isThorough_of_names _ (secretKeyPattern.lead.take 5) 17 rfl ?_ (by decide) (by decide)
    (by decide) (by decide) (fun _ => isSeparator_of_isTokenCharacter) rfl (by decide)
  exact .cons_cons (setApart_of_word _ _) <|
    .cons_cons (setApart_joint (by decide) (by decide)) <|
    .cons_cons (setApart_of_word _ _) <|
    .cons_cons (setApart_joint (by decide) (by decide)) <|
    .cons_cons (setApart_of_word _ _) <| .singleton _

theorem isThorough_sessionTokenPattern : IsThorough sessionTokenPattern := by
  refine @isThorough_of_names _ (sessionTokenPattern.lead.take 3) 13 rfl ?_ (by decide)
    (by decide) (by decide) (by decide) (fun _ => isSeparator_of_isTokenCharacter) rfl (by decide)
  exact .cons_cons (setApart_of_word _ _) <|
    .cons_cons (setApart_joint (by decide) (by decide)) <|
    .cons_cons (setApart_of_word _ _) <| .singleton _

theorem isThorough_of_mem (member : pattern ∈ patterns) : IsThorough pattern := by
  simp only [patterns, List.mem_cons, List.not_mem_nil, or_false] at member
  rcases member with rfl | rfl | rfl | rfl
  · exact isThorough_accountPattern
  · exact isThorough_keyIdPattern
  · exact isThorough_secretKeyPattern
  · exact isThorough_sessionTokenPattern

/-! ## All passes -/

/-- The passes for some patterns leave none of them, and no other pattern that was not there. -/
theorem not_occursIn_foldl_patterns (thorough : IsThorough pattern) {others : List Pattern}
    (othersThorough : ∀ other ∈ others, IsThorough other) (text : List Char)
    (gone : pattern ∈ others ∨ ¬pattern.OccursIn text) :
    ¬pattern.OccursIn
      (others.foldl (fun text other => (findPattern other).replaceIn text) text) := by
  induction others generalizing text with
  | nil => exact gone.resolve_left (List.not_mem_nil)
  | cons other others induction =>
      refine induction (fun other member => othersThorough other (.tail _ member)) _ ?_
      rcases gone with member | absent
      · rcases List.mem_cons.mp member with rfl | member
        · exact .inr (thorough.not_occursIn_own none text)
        · exact .inl member
      · exact .inr ((keepsOut_findPattern pattern other).not_occursIn
          (othersThorough other (.head _)).isSound thorough absent none)

theorem not_occursIn_foldl_fields (thorough : IsThorough pattern) {fields : List String}
    (areNames : ∀ field ∈ fields, IsName field) {text : List Char}
    (absent : ¬pattern.OccursIn text) :
    ¬pattern.OccursIn
      (fields.foldl (fun text field => (findField field).replaceIn text) text) := by
  refine List.foldlRecOn (motive := fun text => ¬pattern.OccursIn text) _ _ absent
    fun text absent field member => ?_
  have isName := areNames field member
  exact (isName.keepsOut thorough).not_occursIn isName.isSound thorough absent none

/-- No text of a pattern is left by the passes, whatever the fields and their order. -/
theorem not_occursIn_redactFields {fields : List String}
    (areNames : ∀ field ∈ fields, IsName field) (member : pattern ∈ patterns) (text : List Char) :
    ¬pattern.OccursIn (redactFields fields text) :=
  not_occursIn_foldl_fields (isThorough_of_mem member) areNames <|
    not_occursIn_foldl_patterns (isThorough_of_mem member) (fun _ => isThorough_of_mem) text
      (.inl member)

theorem foldl_patterns_of_not_occursIn {others : List Pattern} {text : List Char}
    (absent : ∀ pattern ∈ others, ¬pattern.OccursIn text) :
    others.foldl (fun text other => (findPattern other).replaceIn text) text = text := by
  induction others with
  | nil => rfl
  | cons other others induction =>
      rw [List.foldl_cons, replaceIn_of_not_occursIn (absent other (.head _)),
        induction fun pattern member => absent pattern (.tail _ member)]

end BucketGuard.Redaction
