import BucketGuard.Proofs.Redaction.Fields
import Mathlib.Data.List.Chain
import Mathlib.Data.List.TakeWhile

namespace BucketGuard

/-! The texts that a pattern stands for, whatever the way they are looked for. The search takes as
much as it can for each piece. It misses no such text, since the pieces of a pattern are set apart by
their characters. -/

-- Every character of a text, and not every character, whatever else is imported.
attribute [local instance (2000)] List.decidableBAll

/-! ## Letters and their case -/

namespace Text

/-- The characters that stand for others once letters are in lower case. -/
private def changedLetters : List Char :=
  "ABCDEFGHIJKLMNOPQRSTUVWXYZ\u017f\u212a\u0131\u0130".toList

private theorem folded_eq_or_mem (character : Char) :
    folded character = character ∨ character ∈ changedLetters := by
  have capitals : ∀ small : Nat, small < 91 → 65 ≤ small →
      Char.ofNat small ∈ changedLetters := by
    decide
  rw [folded]
  split
  next capital =>
    right
    have high : character.toNat ≤ 90 := capital.2
    simpa using capitals character.toNat (by omega) capital.1
  split
  next equal => exact .inr (by rw [equal]; decide)
  split
  next equal => exact .inr (by rw [equal]; decide)
  split
  next equal => exact .inr (by rcases equal with rfl | rfl <;> decide)
  exact .inl rfl

/-- Whether the characters of a kind are told by their lower case. -/
def IgnoresCase (accepts : Char → Bool) : Prop :=
  ∀ character, accepts (folded character) = accepts character

theorem ignoresCase_iff {accepts : Char → Bool} :
    IgnoresCase accepts ↔ ∀ character ∈ changedLetters,
      accepts (folded character) = accepts character := by
  constructor
  · exact fun ignores character _ => ignores character
  · intro changed character
    rcases folded_eq_or_mem character with equal | member
    · rw [equal]
    · exact changed character member

instance (accepts : Char → Bool) : Decidable (IgnoresCase accepts) :=
  decidable_of_iff _ ignoresCase_iff.symm

theorem folded_folded (character : Char) : folded (folded character) = folded character := by
  have changed : ∀ character ∈ changedLetters,
      folded (folded character) = folded character := by
    decide
  rcases folded_eq_or_mem character with equal | member
  · rw [equal, equal]
  · exact changed character member

@[simp] theorem map_folded_map_folded (text : List Char) :
    (text.map folded).map folded = text.map folded := by
  rw [List.map_map]
  exact List.map_congr_left fun character _ => folded_folded character

end Text

/-! ## The texts of a piece -/

namespace Piece

/-- The texts that a piece stands for. -/
def Accepts : Piece → List Char → Prop
  | .word letters, text => text.map Text.folded = letters
  | .optional accepts, text => text.length ≤ 1 ∧ ∀ character ∈ text, accepts character = true
  | .many accepts, text => ∀ character ∈ text, accepts character = true
  | .several accepts, text => text ≠ [] ∧ ∀ character ∈ text, accepts character = true
  | .exactly count accepts, text =>
      text.length = count ∧ ∀ character ∈ text, accepts character = true

/-- The texts that a row of pieces stands for. -/
def AcceptsRow : List Piece → List Char → Prop
  | [], text => text = []
  | piece :: row, text =>
      ∃ first others, text = first ++ others ∧ piece.Accepts first ∧ AcceptsRow row others

/-- Whether a character may belong to a text of the piece. -/
def admits : Piece → Char → Bool
  | .word letters, character => letters.contains (Text.folded character)
  | .optional accepts, character => accepts character
  | .many accepts, character => accepts character
  | .several accepts, character => accepts character
  | .exactly _ accepts, character => accepts character

/-- The characters that make a text of the piece go on. -/
def goesOn : Piece → Char → Bool
  | .word _, _ => false
  | .optional accepts, character => accepts character
  | .many accepts, character => accepts character
  | .several accepts, character => accepts character
  | .exactly _ _, _ => false

/-- The fewest characters of a text of the piece. -/
def least : Piece → Nat
  | .word letters => letters.length
  | .optional _ => 0
  | .many _ => 0
  | .several _ => 1
  | .exactly count _ => count

def leastInRow : List Piece → Nat
  | [] => 0
  | piece :: row => piece.least + leastInRow row

variable {piece : Piece} {row : List Piece} {first rest text : List Char}

theorem Accepts.admits (accepts : piece.Accepts text) :
    ∀ character ∈ text, piece.admits character = true := by
  cases piece with
  | word letters =>
      intro character member
      rw [Piece.admits, List.contains_iff_mem, ← accepts]
      exact List.mem_map_of_mem member
  | optional kind => exact accepts.2
  | many kind => exact accepts
  | several kind => exact accepts.2
  | exactly count kind => exact accepts.2

theorem Accepts.least_le (accepts : piece.Accepts text) : piece.least ≤ text.length := by
  cases piece with
  | word letters => rw [least, ← accepts, List.length_map]
  | optional kind => exact Nat.zero_le _
  | many kind => exact Nat.zero_le _
  | several kind => exact List.length_pos_iff.mpr accepts.1
  | exactly count kind => exact accepts.1.ge

theorem AcceptsRow.admits (accepts : AcceptsRow row text) :
    ∀ character ∈ text, (row.any fun piece => piece.admits character) = true := by
  induction row generalizing text with
  | nil => simp [show text = [] from accepts]
  | cons piece row induction =>
      rcases accepts with ⟨first, others, rfl, ofPiece, ofRow⟩
      intro character member
      rw [List.any_cons, Bool.or_eq_true]
      rcases List.mem_append.mp member with inFirst | inOthers
      · exact .inl (ofPiece.admits character inFirst)
      · exact .inr (induction ofRow character inOthers)

theorem AcceptsRow.least_le (accepts : AcceptsRow row text) : leastInRow row ≤ text.length := by
  induction row generalizing text with
  | nil => exact Nat.zero_le _
  | cons piece row induction =>
      rcases accepts with ⟨first, others, rfl, ofPiece, ofRow⟩
      rw [leastInRow, List.length_append]
      exact Nat.add_le_add ofPiece.least_le (induction ofRow)

theorem acceptsRow_append {row other : List Piece} :
    AcceptsRow (row ++ other) text ↔
      ∃ first second, text = first ++ second ∧ AcceptsRow row first ∧ AcceptsRow other second := by
  induction row generalizing text with
  | nil => simp [AcceptsRow]
  | cons piece row induction =>
      constructor
      · rintro ⟨first, others, rfl, ofPiece, ofRow⟩
        rcases induction.mp ofRow with ⟨second, third, rfl, ofSecond, ofThird⟩
        exact ⟨first ++ second, third, (List.append_assoc ..).symm,
          ⟨first, second, rfl, ofPiece, ofSecond⟩, ofThird⟩
      · rintro ⟨-, third, rfl, ⟨first, second, rfl, ofPiece, ofSecond⟩, ofThird⟩
        exact ⟨first, second ++ third, List.append_assoc .., ofPiece,
          induction.mpr ⟨second, third, rfl, ofSecond, ofThird⟩⟩

@[simp] theorem acceptsRow_singleton : AcceptsRow [piece] text ↔ piece.Accepts text := by
  simp [AcceptsRow]

/-! ## The case of the letters -/

private theorem forall_mem_map_folded (accepts : Char → Bool)
    (ignores : Text.IgnoresCase accepts) :
    (∀ character ∈ text.map Text.folded, accepts character = true) ↔
      ∀ character ∈ text, accepts character = true := by
  rw [List.forall_mem_map]
  exact forall₂_congr fun character _ => by rw [ignores]

theorem accepts_map_folded (ignores : Text.IgnoresCase piece.admits) :
    piece.Accepts (text.map Text.folded) ↔ piece.Accepts text := by
  cases piece with
  | word letters => rw [Accepts, Accepts, Text.map_folded_map_folded]
  | optional kind => rw [Accepts, Accepts, List.length_map, forall_mem_map_folded kind ignores]
  | many kind => rw [Accepts, Accepts, forall_mem_map_folded kind ignores]
  | several kind =>
      rw [Accepts, Accepts, ne_eq, List.map_eq_nil_iff, forall_mem_map_folded kind ignores]
  | exactly count kind => rw [Accepts, Accepts, List.length_map, forall_mem_map_folded kind ignores]

theorem acceptsRow_map_folded (ignores : ∀ piece ∈ row, Text.IgnoresCase piece.admits) :
    AcceptsRow row (text.map Text.folded) ↔ AcceptsRow row text := by
  induction row generalizing text with
  | nil => rw [AcceptsRow, AcceptsRow, List.map_eq_nil_iff]
  | cons piece row induction =>
      have ofPiece := ignores piece (.head _)
      have ofRow := fun text => @induction text fun piece member => ignores piece (.tail _ member)
      constructor
      · rintro ⟨first, others, equal, firstAccepted, othersAccepted⟩
        rcases List.map_eq_append_iff.mp equal with ⟨first, others, rfl, rfl, rfl⟩
        exact ⟨first, others, rfl, (accepts_map_folded ofPiece).mp firstAccepted,
          (ofRow _).mp othersAccepted⟩
      · rintro ⟨first, others, rfl, firstAccepted, othersAccepted⟩
        exact ⟨_, _, List.map_append, (accepts_map_folded ofPiece).mpr firstAccepted,
          (ofRow _).mpr othersAccepted⟩

/-! ## What is taken for a piece -/

private theorem accepts_of_prefix {taken : List Char} {accepts : Char → Bool}
    (isPrefix : taken <+: text) (all : ∀ character ∈ taken, accepts character = true) :
    taken.length ≤ text.length ∧
      ∀ character ∈ text.take taken.length, accepts character = true := by
  rw [← List.prefix_iff_eq_take.mp isPrefix]
  exact ⟨isPrefix.length_le, all⟩

theorem accepts_of_length? {length : Nat} (found : piece.length? text = some length) :
    length ≤ text.length ∧ piece.Accepts (text.take length) := by
  have all : ∀ (accepts : Char → Bool) (text : List Char),
      ∀ character ∈ text.takeWhile accepts, accepts character = true := fun _ _ =>
    List.all_eq_true.mp List.all_takeWhile
  cases piece with
  | word letters =>
      rcases Option.map_eq_some_iff.mp found with ⟨rest, behind, rfl⟩
      rcases Redaction.afterWord?_eq_some_iff.mp behind with ⟨written, rfl, folds⟩
      rw [← folds, List.length_map, List.length_append, List.take_left]
      exact ⟨Nat.le_add_right .., rfl⟩
  | optional accepts =>
      cases found
      have isPrefix := (List.takeWhile_prefix accepts).trans (List.take_prefix 1 text)
      rcases accepts_of_prefix isPrefix (all accepts _) with ⟨enough, ofTaken⟩
      refine ⟨enough, ?_, ofTaken⟩
      rw [List.length_take_of_le enough]
      exact (List.takeWhile_prefix accepts).length_le.trans (List.length_take_le ..)
  | many accepts =>
      cases found
      exact accepts_of_prefix (List.takeWhile_prefix accepts) (all accepts text)
  | several accepts =>
      have isPrefix := List.takeWhile_prefix (l := text) accepts
      have ofTaken := all accepts text
      cases equal : text.takeWhile accepts with
      | nil => simp [length?, equal] at found
      | cons character taken =>
          simp only [length?, equal, Option.some.injEq] at found
          rw [equal] at isPrefix ofTaken
          rcases accepts_of_prefix isPrefix ofTaken with ⟨enough, ofTaken⟩
          rw [found] at enough ofTaken
          refine ⟨enough, ?_, ofTaken⟩
          rw [← found, ← List.prefix_iff_eq_take.mp isPrefix]
          exact List.cons_ne_nil character taken
  | exactly count accepts =>
      rw [length?] at found
      split at found
      next equal =>
        cases found
        have isPrefix := (List.takeWhile_prefix accepts).trans (List.take_prefix length text)
        rcases accepts_of_prefix isPrefix (all accepts _) with ⟨enough, ofTaken⟩
        rw [equal] at enough ofTaken
        exact ⟨enough, List.length_take_of_le enough, ofTaken⟩
      · contradiction

theorem acceptsRow_of_totalLength? {length : Nat}
    (found : totalLength? text row = some length) :
    length ≤ text.length ∧ AcceptsRow row (text.take length) := by
  induction row generalizing text length with
  | nil =>
      cases found
      exact ⟨Nat.zero_le _, rfl⟩
  | cons piece row induction =>
      rcases Option.bind_eq_some_iff.mp found with ⟨first, ofPiece, found⟩
      rcases Option.bind_eq_some_iff.mp found with ⟨others, ofRow, equal⟩
      cases equal
      rcases accepts_of_length? ofPiece with ⟨enough, accepts⟩
      rcases induction ofRow with ⟨enoughBehind, acceptsBehind⟩
      rw [List.length_drop] at enoughBehind
      exact ⟨by omega, _, _, List.take_add, accepts, acceptsBehind⟩

/-- No character behind a text of the piece makes it go on. -/
def EndsBefore (piece : Piece) (rest : List Char) : Prop :=
  ∀ character ∈ rest.head?, piece.goesOn character = false

private theorem takeWhile_eq_nil (accepts : Char → Bool)
    (ends : ∀ character ∈ rest.head?, accepts character = false) :
    rest.takeWhile accepts = [] := by
  cases rest with
  | nil => rfl
  | cons character rest => rw [List.takeWhile_cons_of_neg (by simp [ends character rfl])]

theorem Accepts.length?_append (accepts : piece.Accepts first) (ends : piece.EndsBefore rest) :
    piece.length? (first ++ rest) = some first.length := by
  cases piece with
  | word letters =>
      rw [length?, Redaction.afterWord?_eq_some_iff.mpr ⟨first, rfl, accepts⟩, ← accepts,
        List.length_map]
      rfl
  | optional kind =>
      rcases accepts with ⟨short, all⟩
      match first, short with
      | [], _ =>
          cases rest with
          | nil => rfl
          | cons character rest =>
              have other : kind character = false := ends character rfl
              simp [length?, other]
      | [character], _ => simp [length?, all character (.head _)]
  | many kind =>
      rw [length?, List.takeWhile_append_of_pos accepts, takeWhile_eq_nil kind ends,
        List.append_nil]
  | several kind =>
      rcases accepts with ⟨nonempty, all⟩
      rw [length?, List.takeWhile_append_of_pos all, takeWhile_eq_nil kind ends,
        List.append_nil]
      cases first with
      | nil => contradiction
      | cons character first => rfl
  | exactly count kind =>
      rcases accepts with ⟨rfl, all⟩
      rw [length?, List.take_left, List.takeWhile_eq_self_iff.mpr all, if_pos rfl]

/-- Behind a text of the piece the search may take more, but it takes something. -/
theorem Accepts.exists_length? (accepts : piece.Accepts first) (rest : List Char) :
    ∃ length, piece.length? (first ++ rest) = some length := by
  cases piece with
  | word letters => exact ⟨_, accepts.length?_append fun _ _ => rfl⟩
  | optional kind => exact ⟨_, rfl⟩
  | many kind => exact ⟨_, rfl⟩
  | several kind =>
      rcases accepts with ⟨nonempty, all⟩
      rw [length?, List.takeWhile_append_of_pos all]
      cases first with
      | nil => contradiction
      | cons character first => exact ⟨_, rfl⟩
  | exactly count kind => exact ⟨_, accepts.length?_append fun _ _ => rfl⟩

/-- A text of the one piece ends where a text of the other begins. -/
def SetApart (piece next : Piece) : Prop :=
  ∀ text, next.Accepts text → ∀ rest, piece.EndsBefore (text ++ rest)

theorem setApart_of_goesOn (never : ∀ character, piece.goesOn character = false) (next : Piece) :
    piece.SetApart next := fun _ _ _ character _ => never character

theorem setApart_of_admits {next : Piece} (positive : 0 < next.least)
    (other : ∀ character, next.admits character = true → piece.goesOn character = false) :
    piece.SetApart next := by
  intro text accepts rest
  cases text with
  | nil => exact absurd accepts.least_le (Nat.not_le_of_gt positive)
  | cons character text =>
      rintro _ ⟨⟩
      exact other character (accepts.admits character (.head _))

theorem setApart_word {letters : List Char} (nonempty : letters ≠ [])
    (ignores : Text.IgnoresCase piece.goesOn)
    (other : ∀ letter ∈ letters, piece.goesOn letter = false) : piece.SetApart (.word letters) := by
  refine setApart_of_admits (List.length_pos_iff.mpr nonempty) fun character admitted => ?_
  rw [← ignores]
  exact other _ (List.contains_iff_mem.mp admitted)

theorem AcceptsRow.totalLength?_append {last : Piece}
    (chain : (row ++ [last]).IsChain SetApart) (accepts : AcceptsRow row first)
    {second : List Char} (ends : last.Accepts second) (rest : List Char) :
    totalLength? (first ++ (second ++ rest)) row = some first.length := by
  induction row generalizing first with
  | nil => rw [show first = [] from accepts, totalLength?, List.length_nil]
  | cons piece row induction =>
      rcases accepts with ⟨first, others, rfl, ofPiece, ofRow⟩
      have endsBefore : piece.EndsBefore (others ++ (second ++ rest)) := by
        cases row with
        | nil =>
            rw [show others = [] from ofRow]
            exact (List.isChain_cons_cons.mp chain).1 _ ends _
        | cons next row =>
            rcases ofRow with ⟨text, behind, rfl, ofNext, -⟩
            rw [List.append_assoc]
            exact (List.isChain_cons_cons.mp chain).1 _ ofNext _
      rw [List.append_assoc, totalLength?, ofPiece.length?_append endsBefore]
      simp [induction chain.tail ofRow]

end Piece

/-! ## The texts of a pattern -/

namespace Pattern

def row (pattern : Pattern) : List Piece := pattern.lead ++ [pattern.secret]

def Matches (pattern : Pattern) (text : List Char) : Prop := Piece.AcceptsRow pattern.row text

/-- Somewhere in the text stands a text of the pattern. -/
def OccursIn (pattern : Pattern) (text : List Char) : Prop :=
  ∃ found, found <:+: text ∧ pattern.Matches found

/-- Whether a character may belong to a text of the pattern. -/
def admits (pattern : Pattern) (character : Char) : Bool :=
  pattern.row.any fun piece => piece.admits character

def least (pattern : Pattern) : Nat := Piece.leastInRow pattern.row

variable {pattern : Pattern} {text : List Char}

theorem matches_iff :
    pattern.Matches text ↔ ∃ lead secret, text = lead ++ secret ∧
      Piece.AcceptsRow pattern.lead lead ∧ pattern.secret.Accepts secret := by
  simp only [Matches, row, Piece.acceptsRow_append, Piece.acceptsRow_singleton]

theorem OccursIn.mono {other : List Char} (isInfix : text <:+: other)
    (occurs : pattern.OccursIn text) : pattern.OccursIn other := by
  rcases occurs with ⟨found, inText, accepted⟩
  exact ⟨found, inText.trans isInfix, accepted⟩

theorem OccursIn.least_le (occurs : pattern.OccursIn text) : pattern.least ≤ text.length := by
  rcases occurs with ⟨found, inText, accepted⟩
  exact (Piece.AcceptsRow.least_le accepted).trans inText.length_le

theorem not_occursIn_nil (positive : 0 < pattern.least) : ¬pattern.OccursIn [] := fun occurs =>
  absurd occurs.least_le (Nat.not_le_of_gt positive)

theorem Matches.ne_nil (positive : 0 < pattern.least) (accepted : pattern.Matches text) :
    text ≠ [] := by
  rintro rfl
  exact absurd (Piece.AcceptsRow.least_le accepted) (Nat.not_le_of_gt positive)

/-- No text of the pattern goes over a character that the pattern does not admit. -/
theorem occursIn_append_cons_iff {character : Char} (other : pattern.admits character = false)
    {first second : List Char} :
    pattern.OccursIn (first ++ character :: second) ↔
      pattern.OccursIn first ∨ pattern.OccursIn second := by
  constructor
  · rintro ⟨found, inText, accepted⟩
    have absent : character ∉ found := fun member =>
      Bool.noConfusion (other.symm.trans (Piece.AcceptsRow.admits accepted character member))
    have isPrefix : ∀ {part}, part <+: character :: second → character ∉ part → part = [] := by
      intro part isPrefix absent
      rcases List.prefix_cons_iff.mp isPrefix with rfl | ⟨more, rfl, -⟩
      · rfl
      · exact absurd (.head _) absent
    rcases List.infix_append_iff.mp inText with
      inFirst | inSecond | ⟨left, right, rfl, ofFirst, ofSecond⟩
    · exact .inl ⟨found, inFirst, accepted⟩
    · rcases List.infix_cons_iff.mp inSecond with begins | inSecond
      · rw [isPrefix begins absent] at accepted
        exact .inl ⟨[], List.nil_infix, accepted⟩
      · exact .inr ⟨found, inSecond, accepted⟩
    · rw [isPrefix ofSecond fun member => absent (List.mem_append_right _ member),
        List.append_nil] at accepted
      exact .inl ⟨left, ofFirst.isInfix, accepted⟩
  · rintro (inFirst | inSecond)
    · exact inFirst.mono (List.prefix_append ..).isInfix
    · exact inSecond.mono ((List.suffix_cons ..).trans (List.suffix_append ..)).isInfix

theorem occursIn_cons_iff (positive : 0 < pattern.least) {character : Char}
    (other : pattern.admits character = false) :
    pattern.OccursIn (character :: text) ↔ pattern.OccursIn text := by
  rw [← List.nil_append (character :: text), occursIn_append_cons_iff other,
    or_iff_right (not_occursIn_nil positive)]

/-- No text of the pattern ends with a character that the secret does not admit. -/
theorem occursIn_concat_iff (positive : 0 < pattern.secret.least) {character : Char}
    (other : pattern.secret.admits character = false) :
    pattern.OccursIn (text ++ [character]) ↔ pattern.OccursIn text := by
  refine ⟨?_, OccursIn.mono (List.prefix_append ..).isInfix⟩
  rintro ⟨found, inText, accepted⟩
  rcases List.infix_concat_iff.mp inText with atEnd | inText
  · rcases matches_iff.mp accepted with ⟨lead, secret, rfl, -, ofSecret⟩
    rcases List.eq_nil_or_concat' secret with rfl | ⟨others, last, rfl⟩
    · exact absurd ofSecret.least_le (Nat.not_le_of_gt positive)
    · have ends : last = character := by
        rcases atEnd with ⟨before, equal⟩
        rw [← List.append_assoc, ← List.append_assoc] at equal
        exact List.singleton_inj.mp (List.append_inj' equal rfl).2
      have admitted := ofSecret.admits last (by simp)
      rw [ends, other] at admitted
      contradiction
  · exact ⟨found, inText, accepted⟩

theorem occursIn_map_folded (ignores : ∀ piece ∈ pattern.row, Text.IgnoresCase piece.admits) :
    pattern.OccursIn (text.map Text.folded) ↔ pattern.OccursIn text := by
  constructor
  · rintro ⟨folded, inFolded, accepted⟩
    rcases List.infix_map_iff.mp inFolded with ⟨found, inText, rfl⟩
    exact ⟨found, inText, (Piece.acceptsRow_map_folded ignores).mp accepted⟩
  · rintro ⟨found, inText, accepted⟩
    exact ⟨_, inText.map _, (Piece.acceptsRow_map_folded ignores).mpr accepted⟩

end Pattern

end BucketGuard
