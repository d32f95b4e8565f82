import BucketGuard.Proofs.Redaction.Patterns

namespace BucketGuard.Redaction

/-! The normal form of a redacted text. No text of a pattern is left in it, and wherever it names a
sensitive field in front of a value, the value is the mark. The pass for one field may change where
the value of another ends, but never makes a value show again, so a redacted text stays as it is when
it is redacted once more. -/

-- Every character of a text, and not every character, whatever else is imported.
attribute [local instance (2000)] List.decidableBAll

variable {field name : String} {before : Option Char} {first rest : List Char}

/-! ## What is written for a field -/

private theorem takeWhile_value {value : List Char} (quiet : IsQuiet rest)
    (all : ∀ character ∈ value, isValueCharacter character = true) :
    (value ++ rest).takeWhile isValueCharacter = value := by
  rw [List.takeWhile_append_of_pos all]
  cases rest with
  | nil => exact List.append_nil value
  | cons character rest =>
      rw [List.takeWhile_cons_of_neg (by simp [quiet character rfl]), List.append_nil]

private theorem isValueCharacter_of_mem_mark :
    ∀ character ∈ mark.toList, isValueCharacter character = true := by
  decide

private theorem announcedLength?_mark (quiet : IsQuiet rest) :
    announcedLength? ([':', ' '] ++ (mark.toList ++ rest)) = some 12 := by
  have separators : ([':', ' '] ++ (mark.toList ++ rest)).takeWhile isSeparator = [':', ' '] := by
    rfl
  simp only [announcedLength?, separators, List.drop_left,
    takeWhile_value quiet isValueCharacter_of_mem_mark]
  rfl

theorem IsName.findField_written (isName : IsName field) (starts : atWordStart before = true)
    (quiet : IsQuiet rest) :
    findField field before (field.toList ++ [':', ' '] ++ mark.toList ++ rest) = some {
      length := (field.toList ++ [':', ' '] ++ mark.toList).length
      replacement := field.toList ++ [':', ' '] ++ mark.toList } := by
  refine findField_eq_some_iff.mpr ⟨starts, field.toList, [':', ' '] ++ (mark.toList ++ rest), 12,
    by simp, isName.map_folded, announcedLength?_mark quiet, ?_⟩
  rw [List.append_assoc, List.length_append]
  rfl

/-- What is written for one field is kept by the pass for any. -/
theorem IsName.keeps_written (isName : IsName field) (otherName : IsName name)
    (quiet : IsQuiet rest) (before : Option Char) :
    (findField field).Keeps before (name.toList ++ [':', ' '] ++ mark.toList) rest := by
  by_cases same : field = name
  · subst same
    cases equal : field.toList with
    | nil => exact absurd equal isName.nonempty
    | cons letter letters =>
        refine ⟨fun finding found => ?_, (isName.passes_behind isName equal rest).keeps⟩
        have starts := (isName.begins_of_found found).1
        have written := isName.findField_written starts quiet
        rw [equal] at written
        cases found.symm.trans written
        exact List.take_left
  · exact (isName.passes_replacement otherName same before rest).keeps

/-! ## The pass for another field -/

/-- What stands as it would be written for one field ends before another field is found. -/
private theorem IsName.length_le_of_found (isName : IsName field) (otherName : IsName name)
    {character : Char} {second : List Char} {finding other : Finding}
    (found : findField field before (character :: (first ++ second)) = some finding)
    (written : (character :: (first ++ second)).take finding.length = finding.replacement)
    (otherFound : findField name (Finder.lastOf (some character) first) second = some other) :
    finding.length ≤ (character :: first).length := by
  by_contra beyond
  rw [replacement_of_found found] at written
  cases equal : field.toList with
  | nil => exact absurd equal isName.nonempty
  | cons letter letters =>
      -- The second part would begin inside of what is written.
      have reaches : (character :: (first ++ second)).take finding.length =
          character :: (first ++ second.take (finding.length - (first.length + 1))) := by
        rw [← List.cons_append, List.take_append, List.take_of_length_le (by omega)]
        rfl
      rw [reaches, equal] at written
      rcases List.cons.inj written with ⟨rfl, inside⟩
      have enough := (isName.isSound _ _ _ found).2
      have nonempty : second.take (finding.length - (first.length + 1)) ≠ [] := by
        intro empty
        have lengths := congrArg List.length empty
        simp only [List.length_take, List.length_cons, List.length_append, List.length_nil]
          at lengths beyond enough
        omega
      have passes := otherName.passes_behind isName equal
        (second.drop (finding.length - (first.length + 1)))
      have inside : first ++ second.take (finding.length - (first.length + 1)) =
          letters ++ [':', ' '] ++ mark.toList := inside
      rw [← inside] at passes
      have none := passes.eq_none nonempty
      rw [List.take_append_drop, otherFound] at none
      contradiction

/-- Whatever is written where another field is found, what stood before it is kept. -/
private theorem IsName.keeps_of_found (isName : IsName field) (otherName : IsName name)
    {second other : List Char} {finding : Finding}
    (found : findField name (Finder.lastOf before first) second = some finding)
    (otherBegins : BeginsName other) (keeps : (findField field).Keeps before first second) :
    (findField field).Keeps before first other := by
  induction first generalizing before with
  | nil => trivial
  | cons character first induction =>
      rw [Finder.lastOf_cons] at found
      refine ⟨fun own ownFound => ?_, induction found keeps.2⟩
      rcases otherName.begins_of_found found with ⟨starts, begins, -, -⟩
      rw [← Finder.lastOf_cons before] at starts
      rcases isName.found_of_beginsName (List.cons_ne_nil character first) starts begins
        otherBegins with equal | ⟨⟨longer, ofOld, beyond⟩, -⟩
      · have ofOld := equal.trans ownFound
        have written := keeps.1 own ofOld
        have within := isName.length_le_of_found otherName ofOld written found
        rw [← List.cons_append, List.take_append_of_le_length within] at written ⊢
        exact written
      · have within := isName.length_le_of_found otherName ofOld (keeps.1 longer ofOld) found
        omega

/-- In front of a quiet text it does not matter which character comes before. -/
theorem AtNames.keeps_of_isQuiet {find : Finder} (atNames : AtNames find) {text : List Char}
    (quiet : IsQuiet text) (keeps : find.Keeps before text rest) (other : Option Char) :
    find.Keeps other text rest := by
  cases text with
  | nil => trivial
  | cons character text =>
      refine ⟨fun finding found => ?_, keeps.2⟩
      exact absurd (atNames _ _ _ found) quiet.not_beginsName

/-- The pass for a field leaves only what is written for it, and the passes for others keep that. -/
theorem IsName.keeps_replaceFrom (isName : IsName field) (otherName : IsName name)
    (before : Option Char) (text : List Char)
    (kept : field = name ∨ (findField field).Keeps before text []) :
    (findField field).Keeps before ((findField name).replaceFrom before 0 text) [] := by
  induction before, text using Finder.scan_induction otherName.isSound with
  | atEnd before text passes =>
      rw [passes.replaceFrom_self]
      rcases kept with rfl | keeps
      · exact passes.keeps
      · exact keeps
  | atFinding before first taken rest finding passes found size induction =>
      rcases otherName.begins_of_found found with ⟨starts, begins, replacementBegins, quiet⟩
      rw [size, List.drop_left] at quiet
      have behind : field = name ∨
          (findField field).Keeps (Finder.lastOf before (first ++ taken)) rest [] := by
        refine kept.imp_right fun keeps => ?_
        rw [← List.append_assoc] at keeps
        exact (Finder.keeps_append.mp keeps).2
      have ahead : (findField field).Keeps before first (taken ++ rest) := by
        rcases kept with rfl | keeps
        · exact passes.keeps
        · simpa using (Finder.keeps_append.mp keeps).1
      have restQuiet := (otherName.atNames.replaceFrom_of_isQuiet quiet
        (Finder.lastOf before (first ++ taken)) none).2
      rw [passes.replaceFrom_of_found otherName.isSound found size, replacement_of_found found,
        Finder.keeps_append, Finder.keeps_append]
      refine ⟨⟨?_, ?_⟩, ?_⟩
      · rw [← replacement_of_found found, List.append_nil]
        exact isName.keeps_of_found otherName found (replacementBegins.append _) ahead
      · rw [List.append_nil]
        exact isName.keeps_written otherName restQuiet _
      · exact isName.atNames.keeps_of_isQuiet restQuiet (induction behind) _

/-- Each of some fields is kept by its pass in what all the passes leave. -/
theorem keeps_foldl_fields {fields : List String} (areNames : ∀ field ∈ fields, IsName field)
    (isName : IsName field) (text : List Char)
    (kept : field ∈ fields ∨ (findField field).Keeps none text []) :
    (findField field).Keeps none
      (fields.foldl (fun text field => (findField field).replaceIn text) text) [] := by
  induction fields generalizing text with
  | nil => exact kept.resolve_left List.not_mem_nil
  | cons name fields induction =>
      refine induction (fun name member => areNames name (.tail _ member)) _ ?_
      have otherName := areNames name (.head _)
      rcases kept with member | keeps
      · rcases List.mem_cons.mp member with same | member
        · exact .inr (isName.keeps_replaceFrom otherName none text (.inl same))
        · exact .inl member
      · exact .inr (isName.keeps_replaceFrom otherName none text (.inr keeps))

theorem foldl_fields_of_keeps {fields : List String} (areNames : ∀ field ∈ fields, IsName field)
    {text : List Char} (keeps : ∀ field ∈ fields, (findField field).Keeps none text []) :
    fields.foldl (fun text field => (findField field).replaceIn text) text = text := by
  induction fields with
  | nil => rfl
  | cons field fields induction =>
      rw [List.foldl_cons, Finder.replaceIn,
        (keeps field (.head _)).replaceFrom_eq (areNames field (.head _)).isSound,
        induction (fun field member => areNames field (.tail _ member))
          fun field member => keeps field (.tail _ member)]

/-! ## Announcements of a field -/

/-- A field is announced between two parts of a text: where a word begins stands its name, whatever
the case, then separators, and then a value up to where values end. -/
structure Announces (field : String) (before found after : List Char) : Prop where
  startsWord : atWordStart before.getLast? = true
  spelled : ∃ written announcement, found = written ++ announcement ∧
    written.map Text.folded = field.toList ∧ IsAnnouncement announcement
  ends : IsQuiet after

/-- What is found for a field is an announcement of it. -/
theorem announces_of_found {before text : List Char} {finding : Finding}
    (found : findField field before.getLast? text = some finding) :
    Announces field before (text.take finding.length) (text.drop finding.length) := by
  rcases findField_eq_some_iff.mp found with
    ⟨starts, written, rest, announced, rfl, folds, announces, rfl⟩
  refine ⟨starts, ⟨written, rest.take announced, ?_, folds,
    isAnnouncement_of_announcedLength? announces⟩, ?_⟩
  · rw [List.take_length_add_append]
  · rw [List.drop_length_add_append]
    exact (isQuiet_of_announcedLength? announces).2

/-- Where a field is announced, it is found. -/
theorem Announces.findField_ne_none {before found after : List Char}
    (announces : Announces field before found after) :
    findField field before.getLast? (found ++ after) ≠ none := by
  rcases announces with ⟨starts, ⟨written, announcement, rfl, folds, isAnnouncement⟩, -⟩
  cases announced : announcedLength? (announcement ++ after) with
  | none => exact absurd announced (announcedLength?_ne_none isAnnouncement after)
  | some length =>
      have isFound := findField_eq_some_iff.mpr ⟨starts, written, announcement ++ after, length,
        List.append_assoc .., folds, announced, rfl⟩
      rw [isFound]
      exact Option.some_ne_none _

private theorem eq_mark_of_isAnnouncement {announcement after : List Char}
    (isAnnouncement : IsAnnouncement announcement) (ends : IsQuiet after) (quiet : IsQuiet rest)
    (same : announcement ++ after = [':', ' '] ++ mark.toList ++ rest) :
    announcement = [':', ' '] ++ mark.toList := by
  rcases isAnnouncement with ⟨separators, value, rfl, nonempty, separates, valueNonempty, allValue⟩
  rw [List.append_assoc, List.append_assoc] at same
  match separators, value with
  | [], _ => contradiction
  | [_], [] => contradiction
  | [_], character :: _ =>
      have isBlank : character = ' ' := (List.cons.inj (List.cons.inj same).2).1
      have isValue := allValue character (.head _)
      rw [isBlank] at isValue
      contradiction
  | [_, _], value =>
      rcases List.cons.inj same with ⟨rfl, behindColon⟩
      rcases List.cons.inj behindColon with ⟨rfl, behindBlank⟩
      have sameValue : value ++ after = mark.toList ++ rest := behindBlank
      rw [← takeWhile_value ends allValue, sameValue,
        takeWhile_value quiet isValueCharacter_of_mem_mark]
  | _ :: _ :: third :: _, _ =>
      have isBracket : third = '[' := (List.cons.inj (List.cons.inj (List.cons.inj same).2).2).1
      have separates := separates third (by simp)
      rw [isBracket] at separates
      contradiction

/-- In a text that the pass for a field keeps, every announcement of the field reads as it would be
written. -/
theorem Announces.eq_of_keeps (isName : IsName field) {before found after : List Char}
    (announces : Announces field before found after)
    (keeps : (findField field).Keeps none (before ++ (found ++ after)) []) :
    found = field.toList ++ [':', ' '] ++ mark.toList := by
  cases isFound : findField field before.getLast? (found ++ after) with
  | none => exact absurd isFound announces.findField_ne_none
  | some finding =>
      rcases announces with ⟨-, ⟨written, announcement, rfl, folds, isAnnouncement⟩, ends⟩
      have quiet := (isName.begins_of_found isFound).2.2.2
      have nonempty : written ++ announcement ++ after ≠ [] := by
        rintro empty
        rw [empty] at isFound
        exact absurd isFound (by rw [isName.atNames.eq_none id]; exact nofun)
      have beforeIs : Finder.lastOf none before = before.getLast? := Option.or_none
      have taken := keeps.take_eq nonempty (by rwa [List.append_nil, beforeIs])
      rw [List.append_nil, replacement_of_found isFound] at taken
      have whole := List.take_append_drop finding.length (written ++ announcement ++ after)
      rw [taken, List.append_assoc, List.append_assoc, List.append_assoc] at whole
      have lengths : field.toList.length = written.length := by rw [← folds, List.length_map]
      rcases List.append_inj whole lengths with ⟨same, behind⟩
      rw [← same, List.append_assoc, List.append_right_inj]
      refine eq_mark_of_isAnnouncement isAnnouncement ends quiet ?_
      rw [← behind, List.append_assoc, List.append_assoc]

/-- Redacted text is in normal form, whatever the order in which the sensitive fields are visited: no
text of a pattern is left, every announcement of a sensitive field has the mark as its value, and
redacting it again, in this order or another, changes nothing. -/
theorem redactFields_normal {fields : List String} (perm : fields.Perm sensitiveFields)
    (message : List Char) :
    (∀ pattern ∈ patterns, ¬pattern.OccursIn (redactFields fields message)) ∧
      (∀ field ∈ sensitiveFields, ∀ before found after,
        redactFields fields message = before ++ (found ++ after) →
          Announces field before found after →
            found = field.toList ++ [':', ' '] ++ mark.toList) ∧
      ∀ again : List String, again.Perm sensitiveFields →
        redactFields again (redactFields fields message) = redactFields fields message := by
  have areNames : ∀ {fields : List String}, fields.Perm sensitiveFields →
      ∀ field ∈ fields, IsName field := fun perm field member =>
    isName_of_sensitive (perm.mem_iff.mp member)
  have absent : ∀ pattern ∈ patterns, ¬pattern.OccursIn (redactFields fields message) :=
    fun pattern member => not_occursIn_redactFields (areNames perm) member message
  have keeps : ∀ field ∈ sensitiveFields,
      (findField field).Keeps none (redactFields fields message) [] := fun field member =>
    keeps_foldl_fields (areNames perm) (isName_of_sensitive member) _
      (.inl (perm.mem_iff.mpr member))
  refine ⟨absent, ?_, ?_⟩
  · intro field member before found after cut announces
    exact announces.eq_of_keeps (isName_of_sensitive member) (cut ▸ keeps field member)
  · intro again permAgain
    rw [redactFields, foldl_patterns_of_not_occursIn absent]
    exact foldl_fields_of_keeps (areNames permAgain) fun field member =>
      keeps field (permAgain.mem_iff.mp member)

/-- A value that is the name of another field, and an account. -/
private def nested : List Char :=
  "Credentials:: token: abc; role arn:aws:iam::123456789012:role/deploy".toList

theorem redactFields_normal_of_reverse :
    sensitiveFields.reverse.Perm sensitiveFields ∧
      redactFields sensitiveFields.reverse nested =
        "credentials: [REDACTED] [REDACTED]; role arn:aws:iam::[REDACTED]:role/deploy".toList ∧
      (∀ pattern ∈ patterns, ¬pattern.OccursIn (redactFields sensitiveFields.reverse nested)) ∧
      (∀ field ∈ sensitiveFields, ∀ before found after,
        redactFields sensitiveFields.reverse nested = before ++ (found ++ after) →
          Announces field before found after →
            found = field.toList ++ [':', ' '] ++ mark.toList) ∧
      ∀ again : List String, again.Perm sensitiveFields →
        redactFields again (redactFields sensitiveFields.reverse nested) =
          redactFields sensitiveFields.reverse nested :=
  ⟨List.reverse_perm _, by decide +kernel, redactFields_normal (List.reverse_perm _) nested⟩

end BucketGuard.Redaction
