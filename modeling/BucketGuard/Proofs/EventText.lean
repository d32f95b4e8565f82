import BucketGuard.Proofs.Acceptance
import BucketGuard.Proofs.Json.Alike
import BucketGuard.Proofs.Redaction.Escapes
import BucketGuard.Proofs.Text.Parts

namespace BucketGuard

/-! Accounts in the lines of events. The line of an event is cut apart by the quotes of its texts, so
it shows an account only if one of its texts does, after it has been redacted and written. -/

-- Every character of a text, and not every character, whatever else is imported.
attribute [local instance (2000)] List.decidableBAll

open Redaction

/-! ## Objects of scalars -/

namespace Json

private theorem not_occursIn_writeScalar {value : Scalar} (noText : ∀ text, value ≠ .str text) :
    ¬accountPattern.OccursIn (writeScalar value) := by
  apply not_occursIn_of_no_colon
  intro member
  exact absurd (plain_writeScalar noText ':' member) (by decide)

/-- All values of the object are scalars. -/
def IsFlat (members : List (String × Json)) : Prop :=
  ∀ member ∈ members, ∃ value, member.2 = .leaf value

/-- A key or a text among the members shows an account, once it is written. -/
def Shows (members : List (String × Json)) : Prop :=
  ∃ key value, (key, .leaf value) ∈ members ∧
    (accountPattern.OccursIn (writeText key) ∨ accountPattern.OccursIn (writeScalar value))

private theorem shows_cons_iff {key : String} {value : Scalar} {members : List (String × Json)} :
    Shows ((key, .leaf value) :: members) ↔
      (accountPattern.OccursIn (writeText key) ∨ accountPattern.OccursIn (writeScalar value)) ∨
        Shows members := by
  constructor
  · rintro ⟨other, otherValue, member, shows⟩
    rcases List.mem_cons.mp member with equal | member
    · cases equal
      exact .inl shows
    · exact .inr ⟨other, otherValue, member, shows⟩
  · rintro (shows | ⟨other, otherValue, member, shows⟩)
    · exact ⟨key, value, .head _, shows⟩
    · exact ⟨other, otherValue, .tail _ member, shows⟩

/-- Quotes and blanks set a member apart from what follows it. -/
private theorem occursIn_writeMember (key : String) (value : Scalar) {behind : Char}
    {rest : List Char} (other : accountPattern.admits behind = false) :
    accountPattern.OccursIn
        (writeText key ++ [':', ' '] ++ writeScalar value ++ behind :: rest) ↔
      (accountPattern.OccursIn (writeText key) ∨ accountPattern.OccursIn (writeScalar value)) ∨
        accountPattern.OccursIn (behind :: rest) := by
  have quote : accountPattern.admits '"' = false := by decide
  have blank : accountPattern.admits ' ' = false := by decide
  have positive : 0 < accountPattern.least := by decide
  have cut : writeText key ++ [':', ' '] ++ writeScalar value ++ behind :: rest =
      '"' :: (key.toList.flatMap writeCharacter ++
        '"' :: ([':'] ++ ' ' :: (writeScalar value ++ behind :: rest))) := by
    simp [writeText]
  have noColon : ¬accountPattern.OccursIn [':'] := fun occurs =>
    absurd occurs.least_le (by decide)
  rw [cut, Pattern.occursIn_cons_iff positive quote, Pattern.occursIn_append_cons_iff quote,
    Pattern.occursIn_append_cons_iff blank, or_iff_right noColon,
    Pattern.occursIn_append_cons_iff other, occursIn_writeText_iff,
    Pattern.occursIn_cons_iff positive other, or_assoc]

private theorem exists_writeMembers (level : Nat) (members : List (String × Json)) :
    ∃ behind rest, writeMembers .spaced level members ++ ['}'] = behind :: rest ∧
      accountPattern.admits behind = false := by
  cases members with
  | nil => exact ⟨'}', [], rfl, by decide⟩
  | cons member members => exact ⟨',', _, rfl, by decide⟩

private theorem occursIn_writeMembers {members : List (String × Json)} (flat : IsFlat members)
    (level : Nat) :
    accountPattern.OccursIn (writeMembers .spaced level members ++ ['}']) ↔ Shows members := by
  have positive : 0 < accountPattern.least := by decide
  induction members with
  | nil =>
      have nothing : ¬accountPattern.OccursIn ['}'] := fun occurs =>
        absurd occurs.least_le (by decide)
      simp [writeMembers, nothing, Shows]
  | cons member members induction =>
      rcases member with ⟨key, value⟩
      rcases flat (key, value) (.head _) with ⟨value, rfl⟩
      have later : accountPattern.OccursIn (writeMembers .spaced level members ++ ['}']) ↔
          Shows members := induction fun member isMember => flat member (.tail _ isMember)
      rcases exists_writeMembers level members with ⟨behind, rest, equal, other⟩
      have cut : writeMembers .spaced level ((key, .leaf value) :: members) ++ ['}'] =
          ',' :: ' ' :: (writeText key ++ [':', ' '] ++ writeScalar value ++ behind :: rest) := by
        rw [← equal]
        simp [writeMembers, Layout.comma, Layout.colon, write]
      rw [cut, Pattern.occursIn_cons_iff positive (by decide),
        Pattern.occursIn_cons_iff positive (by decide), occursIn_writeMember key value other,
        ← equal, later, shows_cons_iff]

/-- The text of an object of scalars shows an account if one of its keys or values does. -/
theorem occursIn_write_iff {members : List (String × Json)} (flat : IsFlat members) :
    accountPattern.OccursIn (write .spaced 0 (.obj members)) ↔ Shows members := by
  have positive : 0 < accountPattern.least := by decide
  cases members with
  | nil =>
      have nothing : ¬accountPattern.OccursIn ['{', '}'] := fun occurs =>
        absurd occurs.least_le (by decide)
      simp [write, nothing, Shows]
  | cons member members =>
      rcases member with ⟨key, value⟩
      rcases flat (key, value) (.head _) with ⟨value, rfl⟩
      rcases exists_writeMembers 1 members with ⟨behind, rest, equal, other⟩
      have cut : write .spaced 0 (.obj ((key, .leaf value) :: members)) =
          '{' :: (writeText key ++ [':', ' '] ++ writeScalar value ++ behind :: rest) := by
        rw [← equal]
        simp [write, Layout.lineBreak, Layout.colon]
      rw [cut, Pattern.occursIn_cons_iff positive (by decide), occursIn_writeMember key value other,
        ← equal, occursIn_writeMembers (fun member isMember => flat member (.tail _ isMember)) 1,
        shows_cons_iff]

end Json

/-! ## Redacted events -/

namespace Redaction

theorem redactMembers_eq (words : List String) (members : List (String × Json)) :
    redactMembers words members =
      members.map fun (key, value) =>
        (key, if isSensitive words key then .str mark else redactValue words value) := by
  induction members with
  | nil => rfl
  | cons member rest induction => rw [redactMembers, induction, List.map_cons]

theorem redactMembers_eq_map {words : List String} {members : List (String × Json)}
    (harmless : ∀ member ∈ members, isSensitive words member.1 = false) :
    redactMembers words members =
      members.map fun (key, value) => (key, redactValue words value) := by
  rw [redactMembers_eq]
  refine List.map_congr_left fun member isMember => ?_
  simp only [harmless member isMember, Bool.false_eq_true, if_false]

end Redaction

namespace Event

/-- The keys of the events that compiling logs. -/
def keys : List String :=
  ["controller", "bucket", "environment", "event", "reason", "message", "statements",
    "lifecycle_rules", "object_lock", "fingerprint"]

theorem isSensitive_of_mem_keys :
    ∀ key ∈ keys, isSensitive (sensitiveFields ++ []) key = false := by
  decide +kernel

private theorem not_occursIn_of_mem_keys {key : String} (member : key ∈ keys) :
    ¬accountPattern.OccursIn (Json.writeText key) := by
  have noColon : ∀ key ∈ keys, ':' ∉ Json.writeText key := by decide
  exact not_occursIn_of_no_colon (noColon key member)

/-- The members of an event as they are redacted. -/
private def redactedMembers (event : Event) : List (String × Json) :=
  event.members.map fun (key, value) => (key, redactValue (sensitiveFields ++ []) value)

/-- The line has the redacted members, in another order. -/
private theorem exists_written {event : Event} (flat : Json.IsFlat event.members)
    (usual : ∀ member ∈ event.members, member.1 ∈ keys) :
    ∃ written, event.line.toList = Json.write .spaced 0 (.obj written) ∧
      written.Perm event.redactedMembers := by
  have redacted : redactObject [] event.members = event.redactedMembers :=
    redactMembers_eq_map fun member isMember => isSensitive_of_mem_keys _ (usual member isMember)
  have unordered : Json.orderedMembers event.redactedMembers = event.redactedMembers := by
    rw [Json.orderedMembers_eq_map, redactedMembers, List.map_map]
    refine List.map_congr_left fun member isMember => ?_
    rcases member with ⟨key, value⟩
    rcases flat (key, value) isMember with ⟨value, rfl⟩
    cases value <;> rfl
  refine ⟨Members.sortBy Json.keyLess event.redactedMembers, ?_, Members.sortBy_perm _ _⟩
  rw [line, Json.canonical, Json.print, String.toList_ofList, redacted, Json.ordered, unordered]

/-- A redacted scalar shows an account only if it is a text that begins one with an escape. -/
private theorem exists_redactValue_leaf (words : List String) (value : Scalar) :
    ∃ redacted, redactValue words (.leaf value) = .leaf redacted ∧
      (accountPattern.OccursIn (Json.writeScalar redacted) ↔
        ∃ text, value = .str text ∧ BeginsInEscape (redact text).toList) := by
  cases value with
  | str text =>
      refine ⟨.str (redact text), rfl, ?_⟩
      simp only [Json.writeScalar, occursIn_writeText_redact_iff, Scalar.str.injEq,
        exists_eq_left']
  | null => exact ⟨.null, rfl, by simpa using Json.not_occursIn_writeScalar (by simp)⟩
  | bool value => exact ⟨.bool value, rfl, by simpa using Json.not_occursIn_writeScalar (by simp)⟩
  | int value => exact ⟨.int value, rfl, by simpa using Json.not_occursIn_writeScalar (by simp)⟩
  | float value => exact ⟨.float value, rfl, by simpa using Json.not_occursIn_writeScalar (by simp)⟩

/-- The line of an event shows an account only if a text of the event, once it has been redacted,
begins one with an escape. -/
theorem occursIn_line_iff {event : Event} (flat : Json.IsFlat event.members)
    (usual : ∀ member ∈ event.members, member.1 ∈ keys) :
    accountPattern.OccursIn event.line.toList ↔
      ∃ key text, (key, Tree.str text) ∈ event.members ∧
        BeginsInEscape (redact text).toList := by
  rcases exists_written flat usual with ⟨written, isWritten, perm⟩
  have isFlat : Json.IsFlat written := by
    intro member isMember
    rcases List.mem_map.mp (perm.mem_iff.mp isMember) with ⟨⟨key, value⟩, isOriginal, rfl⟩
    rcases flat _ isOriginal with ⟨value, rfl⟩
    rcases exists_redactValue_leaf (sensitiveFields ++ []) value with ⟨redacted, equal, -⟩
    exact ⟨redacted, equal⟩
  rw [isWritten, Json.occursIn_write_iff isFlat]
  constructor
  · rintro ⟨key, shown, isMember, occurs⟩
    rcases List.mem_map.mp (perm.mem_iff.mp isMember) with ⟨⟨_, value⟩, isOriginal, equal⟩
    rcases flat _ isOriginal with ⟨value, rfl⟩
    rcases exists_redactValue_leaf (sensitiveFields ++ []) value with ⟨redacted, isRedacted, shows⟩
    rcases Prod.mk.inj equal with ⟨rfl, isShown⟩
    cases isRedacted.symm.trans isShown
    have inValue := occurs.resolve_left (not_occursIn_of_mem_keys (usual _ isOriginal))
    rcases shows.mp inValue with ⟨text, rfl, begins⟩
    exact ⟨_, text, isOriginal, begins⟩
  · rintro ⟨key, text, isMember, begins⟩
    refine ⟨key, .str (redact text), perm.mem_iff.mpr (List.mem_map_of_mem isMember), .inr ?_⟩
    exact (occursIn_writeText_redact_iff text).mpr begins

end Event

/-! ## Events of compiling -/

theorem Digest.mem_of_mem_sha256 {text : String} {character : Char}
    (member : character ∈ (Digest.sha256 text).toList) :
    character ∈ "0123456789abcdef".toList := by
  have ofWord : ∀ word, character ∈ Digest.wordDigits word →
      character ∈ "0123456789abcdef".toList := fun _ => mem_of_mem_hexadecimal
  rw [Digest.sha256, String.toList_ofList] at member
  simp only [List.mem_append] at member
  rcases member with ((((((first | second) | third) | fourth) | fifth) | sixth) | seventh) | eighth
  all_goals exact ofWord _ (by assumption)

theorem Artifact.isInert_fingerprint {artifact : Artifact} {fingerprint : String}
    (isFingerprint : artifact.fingerprint = .ok fingerprint) :
    ∀ character ∈ fingerprint.toList, IsInert character := by
  rcases Except.bind_eq_ok_iff.mp isFingerprint with ⟨text, -, isDigest⟩
  have same : Digest.sha256 text = fingerprint := Except.ok.inj isDigest
  rw [← same]
  have digits : ∀ digit ∈ "0123456789abcdef".toList, IsInert digit := by decide
  exact fun character member => digits character (Digest.mem_of_mem_sha256 member)

namespace Configuration

/-- The name or the environment begins an account with an escape, even if it is redacted. -/
def Reveals (configuration : Configuration) : Prop :=
  BeginsInEscape (redact configuration.name.plain).toList ∨
    BeginsInEscape (redact configuration.environment.plain).toList

private theorem not_beginsInEscape_redact {text : String}
    (inert : ∀ character ∈ text.toList, IsInert character) :
    ¬BeginsInEscape (redact text).toList :=
  not_beginsInEscape (isInert_redact inert)

theorem isInert_name_of_accepted {configuration : Configuration} {name : String}
    (accepted : configuration.nameErrors = []) (isName : configuration.name = .str name) :
    ∀ character ∈ name.toList, IsInert character := by
  intro character member
  rcases name_of_accepted accepted isName character member with isNameCharacter | rfl
  · exact isInert_of_isNameCharacter isNameCharacter
  · decide

theorem isInert_of_mem_environments :
    ∀ environment ∈ environments, ∀ character ∈ environment.toList, IsInert character := by
  decide

/-- Nothing in what is accepted is escaped in a way that an account could begin with. -/
theorem not_reveals_of_accepted {strict : Bool} {configuration : Configuration}
    (accepted : configuration.errors strict = []) : ¬configuration.Reveals := by
  rcases errors_eq_nil_iff.mp accepted with ⟨nameErrors, environmentErrors, -⟩
  rcases exists_name nameErrors with ⟨name, isName⟩
  rcases environment_of_accepted environmentErrors with ⟨environment, isUsual, isEnvironment⟩
  rw [Reveals, isName, isEnvironment]
  exact not_or.mpr ⟨not_beginsInEscape_redact (isInert_name_of_accepted nameErrors isName),
    not_beginsInEscape_redact (isInert_of_mem_environments environment isUsual)⟩

/-- The event of ignored lock settings shows an account only if the name or the environment does. -/
theorem occursIn_ignoredLockEvent_iff (configuration : Configuration) :
    accountPattern.OccursIn configuration.ignoredLockEvent.line.toList ↔
      configuration.Reveals := by
  have members : configuration.ignoredLockEvent.members =
      [("controller", .str "bucket-policy-compiler"), ("bucket", .str configuration.name.plain),
        ("environment", .str configuration.environment.plain), ("event", .str "warning"),
        ("reason", .str "ObjectLockIgnored"),
        ("message",
          .str "Object lock settings supplied while object lock is disabled; ignoring them")] := rfl
  have constants : ∀ text ∈ ["bucket-policy-compiler", "warning", "ObjectLockIgnored",
      "Object lock settings supplied while object lock is disabled; ignoring them"],
      ∀ character ∈ text.toList, IsInert character := by decide +kernel
  have quiet := fun text member => not_beginsInEscape_redact (constants text member)
  simp only [List.forall_mem_cons, List.not_mem_nil, false_implies, implies_true] at quiet
  rw [Event.occursIn_line_iff (by simp [Json.IsFlat, members]) (by simp [members, Event.keys]),
    members, Reveals]
  simp [or_and_right, exists_or, quiet]

/-- An accepted configuration compiles without showing an account. -/
theorem not_occursIn_compiledEvent {strict : Bool} {configuration : Configuration}
    {artifact : Artifact} {fingerprint : String} (accepted : configuration.errors strict = [])
    (isFingerprint : artifact.fingerprint = .ok fingerprint) :
    ¬accountPattern.OccursIn
      (configuration.compiledEvent artifact fingerprint).line.toList := by
  rcases errors_eq_nil_iff.mp accepted with ⟨nameErrors, environmentErrors, -⟩
  rcases exists_name nameErrors with ⟨name, isName⟩
  rcases environment_of_accepted environmentErrors with ⟨environment, isUsual, isEnvironment⟩
  have members : (configuration.compiledEvent artifact fingerprint).members =
      [("controller", .str "bucket-policy-compiler"), ("bucket", .str name),
        ("environment", .str environment), ("event", .str "compiled"),
        ("reason", .str "CompileSucceeded"),
        ("message", .str s!"Compiled policy for bucket {name}"),
        ("statements", .int artifact.statements.length),
        ("lifecycle_rules", .int artifact.lifecycleRules.length),
        ("object_lock", .bool artifact.lock.isSome), ("fingerprint", .str fingerprint)] := by
    rw [compiledEvent, isName, isEnvironment]
    rfl
  have constants : ∀ text ∈ ["bucket-policy-compiler", "compiled", "CompileSucceeded"],
      ∀ character ∈ text.toList, IsInert character := by decide +kernel
  have opening : ∀ character ∈ "Compiled policy for bucket ".toList, IsInert character := by
    decide +kernel
  have inName := isInert_name_of_accepted nameErrors isName
  have inMessage : ∀ character ∈ (s!"Compiled policy for bucket {name}").toList,
      IsInert character := by
    rw [String.toList_append]
    exact List.forall_mem_append.mpr ⟨opening, inName⟩
  have quiet := fun text member => not_beginsInEscape_redact (constants text member)
  simp only [List.forall_mem_cons, List.not_mem_nil, false_implies, implies_true] at quiet
  have ofEnvironment := not_beginsInEscape_redact (isInert_of_mem_environments _ isUsual)
  have ofName := not_beginsInEscape_redact inName
  have ofMessage := not_beginsInEscape_redact inMessage
  have ofFingerprint := not_beginsInEscape_redact (Artifact.isInert_fingerprint isFingerprint)
  rw [Event.occursIn_line_iff (by simp [Json.IsFlat, members]) (by simp [members, Event.keys]),
    members]
  simp [or_and_right, exists_or, quiet, ofEnvironment, ofName, ofMessage, ofFingerprint]

end Configuration

end BucketGuard
