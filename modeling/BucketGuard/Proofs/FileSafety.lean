import BucketGuard.Proofs.FileWriting
import BucketGuard.Proofs.SelfVerification
import BucketGuard.Proofs.Switches

namespace BucketGuard.CommandLine

/-! What a command leaves behind. It writes one file at most, after everything else that could fail,
so a command that fails has changed no file. -/

/-! ## All or nothing -/

namespace Dialogue

/-- Once a file has been written, the dialogue ends well. -/
def AllOrNothing : Dialogue → Prop
  | .ended _ => True
  | .read _ next => ∀ answer, (next answer).AllOrNothing
  | .write _ _ next =>
      (∃ ending, next (.ok ()) = .ended ending ∧ ending.exitCode = 0) ∧
        ∀ fault, (next (.error fault)).AllOrNothing

theorem AllOrNothing.tellFirst {dialogue : Dialogue} (errors : String)
    (allOrNothing : dialogue.AllOrNothing) : (dialogue.tellFirst errors).AllOrNothing := by
  induction dialogue with
  | ended ending => trivial
  | read input next induction => exact fun answer => induction answer (allOrNothing answer)
  | write name text next induction =>
      rcases allOrNothing with ⟨⟨ending, isEnding, succeeds⟩, fails⟩
      refine ⟨⟨{ ending with errors := errors ++ ending.errors }, ?_, succeeds⟩, fun fault =>
        induction (.error fault) (fails fault)⟩
      exact congrArg (Dialogue.tellFirst errors) isEnding

theorem AllOrNothing.files_eq {dialogue : Dialogue} (allOrNothing : dialogue.AllOrNothing)
    {files : Files} {standardInput : String}
    (fails : ¬dialogue.Succeeds files standardInput) :
    (dialogue.runOn files standardInput).2 = files := by
  induction dialogue with
  | ended ending => rfl
  | read input next induction =>
      rw [Succeeds, runOn_read] at fails
      rw [runOn_read]
      exact induction _ (allOrNothing _) fails
  | write name text next induction =>
      rw [Succeeds, runOn] at fails
      rw [runOn]
      rcases allOrNothing with ⟨⟨ending, isEnding, succeeds⟩, otherwise⟩
      cases stored : files.write name text with
      | error fault =>
          rw [stored] at fails
          exact induction (.error fault) (otherwise fault) fails
      | ok after =>
          rw [stored, isEnding] at fails
          exact absurd succeeds fails

end Dialogue

/-- A text that there is takes the place of what the file held. -/
theorem deliver_allOrNothing (log target text : String) :
    (deliver log target (.ok text)).AllOrNothing := by
  unfold deliver
  dsimp only
  split
  · trivial
  · cases Input.ofName target with
    | standard => trivial
    | file name => exact ⟨⟨_, rfl, rfl⟩, fun fault => trivial⟩

/-- Whatever can fail while the text is rendered has failed before the output is opened. -/
theorem compileDialogue_allOrNothing (posture : Posture) (pretty : Bool) (target : String)
    (members : List (String × Json)) :
    (compileDialogue posture pretty target members).AllOrNothing := by
  rcases compileDialogue_cases posture pretty target members with
    ⟨failure, log, -, isDialogue⟩ | ⟨artifact, fingerprint, text, log, -, -, isDialogue⟩
  · rw [isDialogue]
    trivial
  · rw [isDialogue]
    exact deliver_allOrNothing log target text

theorem Command.work_allOrNothing (command : Command) (posture : Posture) (arguments : Arguments)
    (members : List (String × Json)) : (command.work posture arguments members).AllOrNothing := by
  cases command with
  | compile => exact compileDialogue_allOrNothing _ _ _ members
  | validate => trivial

theorem Command.run_allOrNothing (command : Command) (posture : Posture)
    (arguments : List String) : (command.run posture arguments).AllOrNothing := by
  unfold Command.run
  split
  · trivial
  · split
    · trivial
    · split
      · trivial
      · dsimp only
        split
        · trivial
        · intro answer
          cases answer with
          | error fault => trivial
          | ok text =>
              dsimp only
              split
              · trivial
              · split
                · trivial
                · exact command.work_allOrNothing ..

theorem run_allOrNothing (environment : Environment) (arguments : List String) :
    (run environment arguments).AllOrNothing := by
  unfold run
  split
  · trivial
  · split
    · trivial
    · split
      · trivial
      · split
        · trivial
        · split
          · trivial
          · dsimp only
            split
            · trivial
            · exact (Command.run_allOrNothing ..).tellFirst _

/-! ## What compiling leaves -/

/-- The text is the output, or the target leads to it; nothing else has changed. -/
def Delivered (target text : String) (files : Files) (output : String) (after : Files) : Prop :=
  match Input.ofName target with
  | .standard => output = text ∧ after = files
  | .file name =>
      output = "" ∧ ∃ spot, files.walk (nameStart name) (nameParts name) = .ok spot ∧
        Files.HasStored spot text files after ∧ (spot.base = .working → after.read name = .ok text)

variable {files : Files} {standardInput : String}

theorem deliver_delivers {log target text : String}
    (succeeds : (deliver log target (.ok text)).Succeeds files standardInput) :
    Delivered target (text ++ "\n") files
      ((deliver log target (.ok text)).runOn files standardInput).1.output
      ((deliver log target (.ok text)).runOn files standardInput).2 := by
  unfold deliver Delivered at *
  dsimp only at succeeds ⊢
  split at succeeds
  · contradiction
  · rename_i noNull
    rw [if_neg noNull]
    cases goal : Input.ofName target with
    | standard => exact ⟨rfl, rfl⟩
    | file name =>
        rw [goal, Dialogue.Succeeds] at succeeds
        dsimp only at succeeds ⊢
        rw [Dialogue.runOn] at succeeds ⊢
        cases stored : files.write name (text ++ "\n") with
        | error fault =>
            rw [stored] at succeeds
            contradiction
        | ok after => exact ⟨rfl, Files.hasStored_of_write stored⟩

/-- What is sealed are the fields with the fingerprint that compiling gave. -/
theorem exists_fields_of_sealed {members : List (String × Json)} {strict : Bool}
    {artifact : Artifact} {fingerprint : String}
    (compiled : (Session.compile members strict false).result = .ok (artifact, fingerprint))
    {layout : Json.Layout} {text : String} (isText : artifact.sealed layout = .ok text) :
    ∃ fields, artifact.fields = .ok fields ∧
      (Document.ofFields (fields ++ [("fingerprint", .str fingerprint)])).canonical layout =
        .ok text := by
  simp only [Artifact.sealed, Except.bind_eq_ok_iff] at isText
  rcases isText with ⟨fields, isFields, sum, isSum, isText⟩
  rcases Session.compile_eq_ok_iff.mp compiled with ⟨configuration, -, fromConfiguration⟩
  rcases Configuration.compile_eq_ok_iff.mp fromConfiguration with ⟨-, -, written⟩
  cases Except.ok.inj (written.symm.trans isSum)
  exact ⟨fields, isFields, isText⟩

/-- Under the name of a command the command is run, unless the environment names no level. -/
theorem run_cases {environment : Environment} {arguments words : List String} {sorted : Arguments}
    {name : String} {command : Command}
    (isSorted : sortArguments programUsage.switches false arguments = .ok sorted)
    (noHelp : sorted.has helpSwitch.name = false) (isName : sorted.words = name :: words)
    (isCommand : Command.ofName? name = some command) :
    (∃ fault, Logging.threshold (Settings.ofEnvironment environment).logLevel = .error fault ∧
        run environment arguments = .ended (.crashed "" (.logging fault))) ∨
      ∃ posture log, Logging.threshold (Settings.ofEnvironment environment).logLevel =
          .ok posture.threshold ∧
        posture.strict =
          ((Settings.ofEnvironment environment).strictLock || sorted.has strictSwitch.name) ∧
        run environment arguments = (command.run posture words).tellFirst log := by
  have given : arguments.isEmpty = false := by
    cases arguments with
    | nil =>
        cases isSorted
        contradiction
    | cons first rest => rfl
  simp only [run, isSorted, given, noHelp, isName, isCommand, Bool.false_eq_true, if_false]
  cases Logging.threshold (Settings.ofEnvironment environment).logLevel with
  | error fault => exact .inl ⟨fault, rfl, rfl⟩
  | ok threshold => exact .inr ⟨⟨_, threshold⟩, _, rfl, rfl, rfl⟩

private def vault : List (String × Json) :=
  [("name", .str "vault"), ("environment", .str "dev"),
    ("encryption", .obj [("kmsKeyId",
      .str "arn:aws:kms:us-east-1:123456789012:key/12345678-1234-1234-1234-123456789012")])]

private def vaultSource : String := Json.print .compact (.obj vault)

private def vaultFiles : Files := [(["vault.json"], vaultSource), (["notes.txt"], "[]")]

private theorem specification_vault :
    specification (.file "vault.json") vaultSource = .ok vault := by
  rw [specification, vaultSource, Json.print, String.toList_ofList]
  decide +kernel

private def overwriting : List String := ["--pretty", "vault.json", "-o", "vault.json"]

private theorem sorted_program :
    sortArguments programUsage.switches false ("compile" :: overwriting) =
      .ok { switches := [], words := "compile" :: overwriting } := by
  decide +kernel

private theorem sorted_overwriting :
    sortArguments Command.compile.usage.switches true overwriting =
      .ok { switches := [{ name := "--pretty", value := none },
              { name := "--output", value := some "vault.json" }]
            words := ["vault.json"] } := by
  decide +kernel

private theorem overwriting_succeeds :
    (run [] ("compile" :: overwriting)).Succeeds vaultFiles "" := by
  have isThreshold : Logging.threshold (Settings.ofEnvironment []).logLevel = .ok 20 := by
    decide +kernel
  rcases run_cases sorted_program (by decide) rfl rfl with
    ⟨fault, isFault, -⟩ | ⟨⟨strict, threshold⟩, log, isLevel, isStrict, isRun⟩
  · exact nomatch isThreshold.symm.trans isFault
  · have isLax : strict = false := isStrict.trans (by decide +kernel)
    have isUsual : threshold = 20 := Except.ok.inj (isLevel.symm.trans isThreshold)
    subst isLax isUsual
    rw [isRun, Dialogue.succeeds_tellFirst, Dialogue.Succeeds,
      Command.runOn_of_specification sorted_overwriting (by decide) rfl (by decide +kernel) rfl
        specification_vault]
    decide +kernel

end BucketGuard.CommandLine
