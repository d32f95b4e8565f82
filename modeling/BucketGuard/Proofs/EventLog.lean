import BucketGuard.Logging
import BucketGuard.Proofs.EventLine
import BucketGuard.Proofs.Json.CanonicalForm

namespace BucketGuard

/-! The log of events. Every event that passes the threshold takes one line, whatever texts it
carries, and the line is read back as the event's members, each as it is redacted. -/

/-! ## Events -/

namespace Event

/-- The members that every event has. -/
def standard (event : Event) : List (String × Json) :=
  [("controller", .str "bucket-policy-compiler"), ("bucket", event.bucket),
    ("environment", event.environment), ("event", event.event), ("reason", event.reason),
    ("message", event.message)]

/-- Every value of the event is well formed, and each further name is given once. -/
structure WellFormed (event : Event) : Prop where
  standard : ∀ member ∈ event.standard, member.2.WellFormed
  names : (event.further.map Prod.fst).Nodup
  further : ∀ member ∈ event.further, member.2.WellFormed

theorem get?_members {event : Event} (wellFormed : event.WellFormed) (key : String) :
    Members.get? event.members key =
      (Members.get? event.further key).or (Members.get? event.standard key) :=
  Members.get?_putAll event.standard wellFormed.names key

theorem members_wellFormed {event : Event} (wellFormed : event.WellFormed) :
    Json.WellFormed (.obj event.members) := by
  have names : ["controller", "bucket", "environment", "event", "reason", "message"].Nodup := by
    decide
  have standard : Json.WellFormed (.obj event.standard) :=
    .obj (show (event.standard.map Prod.fst).Nodup from names) wellFormed.standard
  exact Json.wellFormed_putAll standard wellFormed.further

theorem visible_line (event : Event) : ∀ character ∈ event.line.toList, Json.IsVisible character :=
  Json.visible_print rfl _

/-- The line is read as an object that is alike to the redacted members, within all limits that
admit them. -/
theorem readWithin_line {event : Event} (wellFormed : event.WellFormed) :
    ∃ members, Json.Alike (.obj (Redaction.redactObject [] event.members)) (.obj members) ∧
      ∀ limits : Json.ReadLimits,
        limits.Admits (.obj (Redaction.redactObject [] event.members)) →
          Json.readWithin limits event.line.toList = .ok (.obj members) := by
  have redacted : Json.WellFormed (.obj (Redaction.redactObject [] event.members)) :=
    Redaction.redactValue_wellFormed _ (members_wellFormed wellFormed)
  refine ⟨_, Json.alike_of_ordered_eq (Json.ordered_ordered _).symm, fun limits admits => ?_⟩
  have blank : Json.Layout.spaced.IsBlank := trivial
  have noSpace : Json.Blank [] := fun _ member => nomatch member
  have reading := Json.readWithin_print redacted.ordered admits.ordered blank noSpace
  rwa [List.append_nil] at reading

end Event

/-! ## Entries -/

namespace Logging

namespace Entry

/-- The entry has a number for its level, if it has one, and its event has no further member under
a name that is taken. -/
structure IsProper (entry : Entry) : Prop where
  level : entry.level = none ∨ ∃ level, entry.level = some (.int level)
  names : ∀ member ∈ entry.event.further, member.1 ∉ standardNames ∧ member.1 ≠ levelName
  event : entry.event.WellFormed

/-- The level of the entry, or the usual one. -/
def number (entry : Entry) : Int := (entry.level.bind Json.int?).getD Severity.info.level

variable {entry : Entry}

theorem levelGiven_of_isProper (proper : entry.IsProper) : entry.levelGiven = .ok entry.number := by
  have absent : Members.get? entry.event.further levelName = none := by
    refine Members.get?_eq_none_iff.mpr fun isName => ?_
    rcases List.mem_map.mp isName with ⟨member, isMember, same⟩
    exact (proper.names member isMember).2 same
  rw [levelGiven, absent, number]
  rcases proper.level with isNone | ⟨level, isSome⟩
  · rw [isNone]
    rfl
  · rw [isSome]
    rfl

theorem eventAlone_of_isProper (proper : entry.IsProper) : entry.eventAlone = entry.event := by
  have kept : entry.event.further.filter (·.1 ≠ levelName) = entry.event.further :=
    List.filter_eq_self.mpr fun member isMember =>
      decide_eq_true (proper.names member isMember).2
  rw [eventAlone, kept]

theorem line?_of_isProper (proper : entry.IsProper) (threshold : Int) :
    entry.line? threshold =
      .ok (if passes threshold entry.number then some entry.event.line else none) := by
  unfold line?
  split
  · rename_i name value found
    have isStandard : name ∈ standardNames := by simpa using List.find?_some found
    exact absurd isStandard (proper.names _ (List.mem_of_find?_eq_some found)).1
  · rw [levelGiven_of_isProper proper, eventAlone_of_isProper proper]
    rfl

end Entry

/-! ## Logs -/

/-- What a buffer holds after the lines have been written to it. -/
def buffer (lines : List String) : List Char := lines.flatMap fun line => line.toList ++ ['\n']

/-- The buffer is cut into the lines again. -/
theorem splitOn_buffer {lines : List String} (unbroken : ∀ line ∈ lines, '\n' ∉ line.toList) :
    Text.splitOn '\n' (buffer lines) = lines.map String.toList ++ [[]] := by
  induction lines with
  | nil => rfl
  | cons line rest induction =>
      rcases List.forall_mem_cons.mp unbroken with ⟨first, others⟩
      have cut : buffer (line :: rest) = line.toList ++ '\n' :: buffer rest := by
        simp [buffer]
      rw [cut, Text.splitOn_append first, induction others]
      rfl

theorem linesAt_of_isProper {entries : List Entry} (proper : ∀ entry ∈ entries, entry.IsProper)
    (threshold : Int) :
    linesAt threshold entries =
      .ok ((entries.filter fun entry => passes threshold entry.number).map fun entry =>
        entry.event.line) := by
  induction entries with
  | nil => rfl
  | cons entry rest induction =>
      rcases List.forall_mem_cons.mp proper with ⟨first, others⟩
      rw [linesAt, Entry.line?_of_isProper first, induction others, List.filter_cons]
      split <;> rfl

/-- Every event whose level is above zero and not below the threshold takes one line, in the order
of the events, and the buffer is cut into these lines again. A line is made of visible characters,
and is read as an object that is alike to the members of its event as they are redacted, further
members in the place of standard ones. -/
theorem lines_read_back {word : String} {least : Int} (isThreshold : threshold word = .ok least)
    {entries : List Entry} (proper : ∀ entry ∈ entries, entry.IsProper) :
    ∃ written, lines word entries = .ok written ∧
      written = (entries.filter fun entry => 0 < entry.number ∧ least ≤ entry.number).map
        (fun entry => entry.event.line) ∧
      Text.splitOn '\n' (buffer written) = written.map String.toList ++ [[]] ∧
      ∀ entry ∈ entries,
        (∀ character ∈ entry.event.line.toList, Json.IsVisible character) ∧
        (∃ members, Json.Alike (.obj (Redaction.redactObject [] entry.event.members))
            (.obj members) ∧
          Json.read entry.event.line.toList = .ok (.obj members) ∧
          ∀ limits : Json.ReadLimits,
            limits.Admits (.obj (Redaction.redactObject [] entry.event.members)) →
              Json.readWithin limits entry.event.line.toList = .ok (.obj members)) ∧
        ∀ key, Members.get? entry.event.members key =
          (Members.get? entry.event.further key).or (Members.get? entry.event.standard key) := by
  refine ⟨_, ?_, rfl, splitOn_buffer ?_, fun entry member => ⟨entry.event.visible_line, ?_,
    Event.get?_members (proper entry member).event⟩⟩
  · simp only [Bool.decide_and]
    rw [lines, isThreshold]
    exact linesAt_of_isProper proper least
  · rw [List.forall_mem_map]
    intro entry _ broken
    exact absurd (entry.event.visible_line '\n' broken) (by decide)
  · rcases Event.readWithin_line (proper entry member).event with ⟨members, alike, reads⟩
    exact ⟨members, alike, reads _ (Json.ReadLimits.admits_unlimited _), reads⟩

private def forged : Entry :=
  { level := some (.int 30)
    event := {
      bucket := .str "vault", environment := .str "dev", event := .str "warning"
      reason := .str "Odd", message := .str "%s \"first\"\nsecond \u2028 password: hunter2"
      further := [("bucket", .str "other"), ("apiKey", .str "hunter2")] } }

private def hushed : Entry := { forged with level := none }

/-- A message with a line break, a percent sign and a secret, and an event below the threshold. -/
theorem lines_read_back_of_forged :
    ∃ line members, lines "warn" [forged, hushed] = .ok [line] ∧
      Text.splitOn '\n' (buffer [line]) = [line.toList, []] ∧
      Json.read line.toList = .ok (.obj members) ∧
      Json.Alike (.obj (Redaction.redactObject [] forged.event.members)) (.obj members) := by
  have wellFormed : forged.event.WellFormed := by
    refine ⟨?_, by decide, ?_⟩ <;> simp [Event.standard, forged]
  have names : ∀ member ∈ forged.event.further,
      member.1 ∉ standardNames ∧ member.1 ≠ levelName := by
    decide
  have proper : ∀ entry ∈ [forged, hushed], entry.IsProper :=
    List.forall_mem_cons.mpr ⟨⟨.inr ⟨30, rfl⟩, names, wellFormed⟩,
      List.forall_mem_singleton.mpr ⟨.inl rfl, names, wellFormed⟩⟩
  have isThreshold : threshold "warn" = .ok 30 := by decide
  rcases lines_read_back isThreshold proper with ⟨written, isWritten, chosen, cut, entries⟩
  have one : written = [forged.event.line] := chosen.trans rfl
  subst one
  rcases (entries forged (.head _)).2.1 with ⟨members, alike, reading, -⟩
  exact ⟨forged.event.line, members, isWritten, cut, reading, alike⟩

end Logging

end BucketGuard
