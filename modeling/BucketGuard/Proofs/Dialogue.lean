import BucketGuard.CommandLine
import BucketGuard.Proofs.Writability

namespace BucketGuard.CommandLine

/-! Dialogues over given files: what a dialogue reads, what it hands out, which endings are no
success, and what a command that ends well has worked on. -/

/-- The text of an input over given files and a given standard input. -/
def Input.textOn (files : Files) (standardInput : String) : Input → Except FileFault String
  | .standard => .ok standardInput
  | .file name => files.read name

/-- The ending with something told before it. -/
def Ending.behind (errors : String) (ending : Ending) : Ending :=
  { ending with errors := errors ++ ending.errors }

namespace Dialogue

/-- Everything that a dialogue hands out over given files: the texts of the files that it writes,
and its output. -/
def handedOut (files : Files) (standardInput : String) : Dialogue → String
  | .ended ending => ending.output
  | .read .standard next => handedOut files standardInput (next (.ok standardInput))
  | .read (.file name) next => handedOut files standardInput (next (files.read name))
  | .write name text next =>
      match files.write name text with
      | .ok files => text ++ handedOut files standardInput (next (.ok ()))
      | .error fault => handedOut files standardInput (next (.error fault))

/-- The dialogue ends well over given files. -/
def Succeeds (files : Files) (standardInput : String) (dialogue : Dialogue) : Prop :=
  (dialogue.runOn files standardInput).1.exitCode = 0

variable (files : Files) (standardInput : String) (input : Input)
  (next : Except FileFault String → Dialogue)

theorem runOn_read : (Dialogue.read input next).runOn files standardInput =
    (next (input.textOn files standardInput)).runOn files standardInput := by
  cases input <;> rfl

theorem handedOut_read : (Dialogue.read input next).handedOut files standardInput =
    (next (input.textOn files standardInput)).handedOut files standardInput := by
  cases input <;> rfl

theorem runOn_tellFirst (errors : String) (dialogue : Dialogue) :
    (dialogue.tellFirst errors).runOn files standardInput =
      ((dialogue.runOn files standardInput).1.behind errors,
        (dialogue.runOn files standardInput).2) := by
  induction dialogue generalizing files with
  | ended ending => rfl
  | read input next induction =>
      rw [tellFirst, runOn_read, runOn_read]
      exact induction _ files
  | write name text next induction =>
      rw [tellFirst, runOn, runOn]
      cases files.write name text with
      | error fault => exact induction _ files
      | ok after => exact induction _ after

theorem succeeds_tellFirst (errors : String) (dialogue : Dialogue) :
    (dialogue.tellFirst errors).Succeeds files standardInput ↔
      dialogue.Succeeds files standardInput := by
  rw [Succeeds, runOn_tellFirst]
  rfl

theorem handedOut_tellFirst (errors : String) (dialogue : Dialogue) :
    (dialogue.tellFirst errors).handedOut files standardInput =
      dialogue.handedOut files standardInput := by
  induction dialogue generalizing files with
  | ended ending => rfl
  | read input next induction =>
      rw [tellFirst, handedOut_read, handedOut_read]
      exact induction _ files
  | write name text next induction =>
      rw [tellFirst, handedOut, handedOut]
      cases files.write name text with
      | error fault => exact induction _ files
      | ok after => exact congrArg (text ++ ·) (induction (.ok ()) after)

end Dialogue

theorem endFailed_exitCode (log : String) (failure : Failure) :
    (endFailed log failure).exitCode ≠ 0 := by
  cases failure <;> exact Nat.one_ne_zero

theorem unreadable_exitCode (input : Input) (text : List Char) (fault : Json.ReadFault) :
    (unreadable input text fault).exitCode ≠ 0 := by
  unfold unreadable
  split <;> exact Nat.one_ne_zero

/-- An artifact that compiling gives has a text in every layout. -/
theorem exists_sealed_of_compile {members : List (String × Json)} {strict traced : Bool}
    {artifact : Artifact} {fingerprint : String}
    (compiled : (Session.compile members strict traced).result = .ok (artifact, fingerprint))
    (layout : Json.Layout) : ∃ text, artifact.sealed layout = .ok text := by
  rcases Session.compile_eq_ok_iff.mp compiled with ⟨configuration, -, fromConfiguration⟩
  rcases Configuration.compile_eq_ok_iff.mp fromConfiguration with ⟨-, -, written⟩
  rcases Artifact.exists_canonical_of_fingerprint written with ⟨canonical, isCanonical⟩
  exact Artifact.exists_sealed isCanonical layout

/-- Compiling fails before any output is opened, or there is a text to deliver. -/
theorem compileDialogue_cases (posture : Posture) (pretty : Bool) (target : String)
    (members : List (String × Json)) :
    (∃ failure log, (Session.compile members posture.strict false).result = .error failure ∧
        compileDialogue posture pretty target members = .ended (endFailed log failure)) ∨
      ∃ artifact fingerprint text log,
        (Session.compile members posture.strict false).result = .ok (artifact, fingerprint) ∧
        artifact.sealed (if pretty then .ofWidth 2 else .compact) = .ok text ∧
        compileDialogue posture pretty target members = deliver log target (.ok text) := by
  unfold compileDialogue
  dsimp only
  cases compiled : (Session.compile members posture.strict false).result with
  | error failure => exact .inl ⟨failure, _, rfl, rfl⟩
  | ok result =>
      rcases exists_sealed_of_compile compiled (if pretty then .ofWidth 2 else .compact) with
        ⟨text, isText⟩
      exact .inr ⟨result.1, result.2, text, _, rfl, isText, congrArg (deliver _ target) isText⟩

/-- Without a specification no command ends well. -/
theorem specification_exitCode {input : Input} {source : String} {ending : Ending}
    (fails : specification input source = .error ending) : ending.exitCode ≠ 0 := by
  unfold specification at fails
  dsimp only at fails
  split at fails
  · cases fails
    exact unreadable_exitCode _ _ _
  · contradiction
  · cases fails
    exact Nat.one_ne_zero

theorem Command.exists_sorted_of_succeeds {command : Command} {posture : Posture} {files : Files}
    {standardInput : String} {words : List String}
    (succeeds : (command.run posture words).Succeeds files standardInput) :
    ∃ arguments, sortArguments command.usage.switches true words = .ok arguments := by
  unfold run at succeeds
  split at succeeds
  · contradiction
  · rename_i arguments sorted
    exact ⟨arguments, sorted⟩

/-- A command does its work on the specification that its input holds. -/
theorem Command.runOn_of_specification {command : Command} {posture : Posture} {files : Files}
    {standardInput : String} {words : List String} {arguments : Arguments} {name source : String}
    {members : List (String × Json)}
    (sorted : sortArguments command.usage.switches true words = .ok arguments)
    (noHelp : arguments.has helpSwitch.name = false) (isName : arguments.words = [name])
    (noNull : (Input.ofName name).hasNull = false)
    (isSource : (Input.ofName name).textOn files standardInput = .ok source)
    (isSpecification : specification (Input.ofName name) source = .ok members) :
    (command.run posture words).runOn files standardInput =
      (command.work posture arguments members).runOn files standardInput := by
  simp only [run, sorted, noHelp, isName, noNull, Bool.false_eq_true, if_false,
    Dialogue.runOn_read, isSource, List.isEmpty_nil, Bool.not_true, isSpecification]

/-- A command ends well on an input only if it holds a specification, and then does its work on
it. -/
theorem Command.exists_work_of_succeeds {command : Command} {posture : Posture} {files : Files}
    {standardInput : String} {words : List String} {arguments : Arguments}
    (sorted : sortArguments command.usage.switches true words = .ok arguments)
    (noHelp : arguments.has helpSwitch.name = false)
    (succeeds : (command.run posture words).Succeeds files standardInput) :
    ∃ name source members, arguments.words = [name] ∧
      (Input.ofName name).textOn files standardInput = .ok source ∧
      specification (Input.ofName name) source = .ok members ∧
      (command.run posture words).runOn files standardInput =
        (command.work posture arguments members).runOn files standardInput ∧
      (command.run posture words).handedOut files standardInput =
        (command.work posture arguments members).handedOut files standardInput := by
  unfold Command.run at succeeds ⊢
  simp only [sorted, noHelp, Bool.false_eq_true, if_false] at succeeds ⊢
  cases given : arguments.words with
  | nil =>
      rw [given] at succeeds
      contradiction
  | cons name others =>
      rw [given] at succeeds
      dsimp only at succeeds ⊢
      split at succeeds
      · contradiction
      · rename_i noNull
        rw [if_neg noNull, Dialogue.handedOut_read, Dialogue.runOn_read]
        rw [Dialogue.Succeeds, Dialogue.runOn_read] at succeeds
        cases isSource : (Input.ofName name).textOn files standardInput with
        | error fault =>
            rw [isSource] at succeeds
            contradiction
        | ok source =>
            rw [isSource] at succeeds
            dsimp only at succeeds ⊢
            split at succeeds
            · contradiction
            · rename_i noWords
              rw [if_neg noWords]
              cases isSpecification : specification (Input.ofName name) source with
              | error ending =>
                  rw [isSpecification] at succeeds
                  exact absurd succeeds (specification_exitCode isSpecification)
              | ok members =>
                  have none : others = [] := by simpa using noWords
                  exact ⟨name, source, members, none ▸ rfl, isSource, isSpecification, rfl, rfl⟩

/-- The compile command ends well on an input only by delivering the text of an artifact that is
compiled from it. -/
theorem Command.exists_delivery {posture : Posture} {files : Files} {standardInput : String}
    {words : List String} {arguments : Arguments}
    (sorted : sortArguments Command.compile.usage.switches true words = .ok arguments)
    (noHelp : arguments.has helpSwitch.name = false)
    (succeeds : (Command.compile.run posture words).Succeeds files standardInput) :
    ∃ name source members artifact fingerprint text dialogue, arguments.words = [name] ∧
      (Input.ofName name).textOn files standardInput = .ok source ∧
      specification (Input.ofName name) source = .ok members ∧
      (Session.compile members posture.strict false).result = .ok (artifact, fingerprint) ∧
      artifact.sealed (if arguments.has prettySwitch.name then .ofWidth 2 else .compact) =
        .ok text ∧
      (∃ log, dialogue =
        deliver log ((arguments.last? outputSwitch.name).getD "-") (.ok text)) ∧
      (Command.compile.run posture words).runOn files standardInput =
        dialogue.runOn files standardInput ∧
      (Command.compile.run posture words).handedOut files standardInput =
        dialogue.handedOut files standardInput := by
  rcases Command.exists_work_of_succeeds sorted noHelp succeeds with
    ⟨name, source, members, isName, isSource, isSpecification, sameRun, sameText⟩
  rw [Command.work] at sameRun sameText
  rcases compileDialogue_cases posture (arguments.has prettySwitch.name)
    ((arguments.last? outputSwitch.name).getD "-") members with
    ⟨failure, log, -, isDialogue⟩ |
      ⟨artifact, fingerprint, text, log, compiled, isText, isDialogue⟩
  · rw [Dialogue.Succeeds, sameRun, isDialogue] at succeeds
    exact absurd succeeds (endFailed_exitCode log failure)
  · rw [isDialogue] at sameRun sameText
    exact ⟨name, source, members, artifact, fingerprint, text, _, isName, isSource,
      isSpecification, compiled, isText, ⟨log, rfl⟩, sameRun, sameText⟩

end BucketGuard.CommandLine
