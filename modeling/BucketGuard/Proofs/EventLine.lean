import BucketGuard.Proofs.EventText
import BucketGuard.Proofs.Json.ReadPrint
import BucketGuard.Proofs.Redaction.NormalForm

namespace BucketGuard

/-! What can be read from the line of an event. The line is the text of an object that has the
members of the event as they are redacted, and redaction leaves a text without separators as it is,
so short words and digests are read back unchanged. -/

-- Every character of a text, and not every character, whatever else is imported.
attribute [local instance (2000)] List.decidableBAll

namespace Redaction

/-! ## Texts without separators -/

private theorem exists_accepted_of_mem {row : List Piece} {piece : Piece} (member : piece ∈ row)
    {text : List Char} (accepted : Piece.AcceptsRow row text) :
    ∃ part, part <:+: text ∧ piece.Accepts part := by
  rcases List.append_of_mem member with ⟨before, after, rfl⟩
  rcases Piece.acceptsRow_append.mp accepted with ⟨first, second, rfl, -, part, others, rfl, own, -⟩
  refine ⟨part, ?_, own⟩
  rw [← List.append_assoc]
  exact List.infix_append first part others

private theorem not_occursIn_of_no_separator {pattern : Pattern} (member : pattern ∈ patterns)
    {text : List Char} (noSeparator : ∀ character ∈ text, isSeparator character = false) :
    ¬pattern.OccursIn text := by
  have ofKey : Piece.several isSeparator ∈ pattern.row → ¬pattern.OccursIn text := by
    rintro inRow ⟨found, inText, matched⟩
    rcases exists_accepted_of_mem inRow matched with ⟨part, inFound, nonempty, separates⟩
    rcases List.exists_mem_of_ne_nil part nonempty with ⟨character, inPart⟩
    have absent := noSeparator character (inText.subset (inFound.subset inPart))
    rw [separates character inPart] at absent
    contradiction
  simp only [patterns, List.mem_cons, List.not_mem_nil, or_false] at member
  rcases member with rfl | rfl | rfl | rfl
  · exact not_occursIn_of_no_colon fun isThere => absurd (noSeparator ':' isThere) (by decide)
  · exact ofKey (by simp [Pattern.row, keyIdPattern])
  · exact ofKey (by simp [Pattern.row, secretKeyPattern])
  · exact ofKey (by simp [Pattern.row, sessionTokenPattern])

private theorem keeps_of_no_separator {text : List Char}
    (noSeparator : ∀ character ∈ text, isSeparator character = false) (field : String) :
    (findField field).Keeps none text [] := by
  suffices passes : ∀ before, (findField field).Passes before text [] from (passes none).keeps
  induction text with
  | nil => exact fun _ => trivial
  | cons character rest induction =>
      intro before
      refine ⟨?_, induction (fun other member => noSeparator other (.tail _ member)) _⟩
      rw [List.append_nil]
      refine Option.eq_none_iff_forall_not_mem.mpr fun finding found => ?_
      rcases findField_eq_some_iff.mp found with ⟨-, written, behind, length, whole, -, announced, -⟩
      rcases isAnnouncement_of_announcedLength? announced with
        ⟨separators, value, cut, nonempty, separates, -⟩
      rcases List.exists_mem_of_ne_nil separators nonempty with ⟨separator, member⟩
      have inBehind : separator ∈ behind := by
        refine List.mem_of_mem_take (i := length) ?_
        rw [cut]
        exact List.mem_append_left _ member
      have absent := noSeparator separator (by
        rw [whole]
        exact List.mem_append_right _ inBehind)
      rw [separates separator member] at absent
      contradiction

/-- Nothing is announced in a text without colons and blanks, so nothing in it is redacted. -/
theorem redact_of_no_separator {text : String}
    (noSeparator : ∀ character ∈ text.toList, isSeparator character = false) :
    redact text = text := by
  have noPattern := foldl_patterns_of_not_occursIn fun _ member =>
    not_occursIn_of_no_separator member noSeparator
  rw [redact, redactFields, noPattern,
    foldl_fields_of_keeps (fun _ => isName_of_sensitive) fun field _ =>
      keeps_of_no_separator noSeparator field,
    String.ofList_toList]

/-! ## Redacted objects -/

theorem keys_redactMembers (words : List String) (members : List (String × Json)) :
    (redactMembers words members).map Prod.fst = members.map Prod.fst := by
  rw [redactMembers_eq, List.map_map]
  rfl

private theorem redactMembers_wellFormed {words : List String} {members : List (String × Json)}
    (nodup : (members.map Prod.fst).Nodup)
    (ofValues : ∀ member ∈ members, (redactValue words member.2).WellFormed) :
    Json.WellFormed (.obj (redactMembers words members)) := by
  refine .obj (by rwa [keys_redactMembers]) ?_
  rw [redactMembers_eq, List.forall_mem_map]
  intro member isMember
  dsimp only
  split
  · exact Json.wellFormed_str mark
  · exact ofValues member isMember

theorem redactValue_wellFormed (words : List String) {value : Json}
    (wellFormed : value.WellFormed) : (redactValue words value).WellFormed := by
  induction wellFormed with
  | @leaf value inForm =>
      cases value with
      | str text => exact Json.wellFormed_str _
      | _ => exact .leaf inForm
  | arr ofItems _ => exact .arr ofItems
  | obj nodup _ induction =>
      rw [redactValue]
      exact redactMembers_wellFormed nodup induction

end Redaction

namespace Json

/-- What an object holds under a key it holds with its members in order, too. -/
theorem exists_ordered_obj {members : List (String × Json)}
    (nodup : (members.map Prod.fst).Nodup) :
    ∃ sorted, ordered (.obj members) = .obj sorted ∧
      ∀ key, Members.get? sorted key = (Members.get? members key).map ordered := by
  have names : ((orderedMembers members).map Prod.fst).Nodup := by rwa [keys_orderedMembers]
  refine ⟨_, ordered.eq_def _, fun key => ?_⟩
  rw [Members.get?_of_perm (Members.sortBy_perm keyLess _) names, orderedMembers_eq_map,
    Members.get?_map]

end Json

/-- The line is the text of an object that has the value under the key. -/
def LogLine.Holds (line : LogLine) (key : String) (value : Json) : Prop :=
  ∃ members, Json.read line.text.toList = .ok (.obj members) ∧
    Members.get? members key = some value

namespace Event

open Redaction

private theorem get?_redactMembers (words : List String) (members : List (String × Json))
    (key : String) :
    Members.get? (redactMembers words members) key = (Members.get? members key).map fun value =>
      if isSensitive words key then .str mark else redactValue words value := by
  induction members with
  | nil => rfl
  | cons member rest induction =>
      rw [redactMembers, Members.get?, Members.get?, induction]
      split
      next same => rw [same, Option.map_some]
      next => rfl

/-- From the line of an event its members are read, each as it is redacted. -/
theorem read_line {event : Event} (wellFormed : Json.WellFormed (.obj event.members)) :
    ∃ members, Json.read event.line.toList = .ok (.obj members) ∧
      ∀ key, Members.get? members key = (Members.get? event.members key).map fun value =>
        Json.ordered (if isSensitive (sensitiveFields ++ []) key then .str mark
          else redactValue (sensitiveFields ++ []) value) := by
  have redacted := redactValue_wellFormed (sensitiveFields ++ []) wellFormed
  have nodup := (Tree.every_obj_iff.mp redacted).1
  rcases Json.exists_ordered_obj nodup with ⟨sorted, isSorted, found⟩
  refine ⟨sorted, ?_, fun key => ?_⟩
  · have blank : Json.Layout.spaced.IsBlank := trivial
    have noSpace : Json.Blank [] := fun _ member => nomatch member
    have reading := Json.read_print redacted.ordered blank noSpace
    rw [List.append_nil] at reading
    rw [← isSorted]
    exact reading
  · rw [found, get?_redactMembers, Option.map_map]
    rfl

/-- A scalar that redaction leaves as it is can be read from the line under its key. -/
theorem holds_of_get? {event : Event} (wellFormed : Json.WellFormed (.obj event.members))
    {key : String} {value : Scalar} (found : Members.get? event.members key = some (.leaf value))
    (usual : key ∈ keys)
    (kept : redactValue (sensitiveFields ++ []) (.leaf value) = .leaf value)
    (severity : Severity) :
    LogLine.Holds { severity, text := event.line } key (.leaf value) := by
  rcases read_line wellFormed with ⟨members, reading, holds⟩
  refine ⟨members, reading, ?_⟩
  rw [holds, found, isSensitive_of_mem_keys key usual, Option.map_some, if_neg Bool.false_ne_true,
    kept]
  rfl

end Event

end BucketGuard
