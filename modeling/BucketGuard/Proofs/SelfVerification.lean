import BucketGuard.Proofs.Dialogue
import BucketGuard.Proofs.SealedText

namespace BucketGuard

/-! What the compile command hands out can be checked against itself. The command reads its
specification from a text, so every value in the artifact is well formed, and what it hands out, with
the line feed at the end, is read back as the artifact that was sealed. -/

namespace CommandLine

/-! ## Handing out -/

variable {posture : Posture} {files : Files} {standardInput : String}

/-- Delivering a text ends well only once it has been handed out. -/
theorem deliver_handedOut {log target text : String}
    (succeeds : (deliver log target (.ok text)).Succeeds files standardInput) :
    (deliver log target (.ok text)).handedOut files standardInput = text ++ "\n" := by
  unfold deliver at succeeds ⊢
  dsimp only at succeeds ⊢
  split at succeeds
  · contradiction
  · rename_i noNull
    rw [if_neg noNull]
    cases goal : Input.ofName target with
    | standard => rfl
    | file name =>
        rw [goal] at succeeds
        dsimp only at succeeds ⊢
        rw [Dialogue.handedOut]
        cases stored : files.write name (text ++ "\n") with
        | error fault =>
            rw [Dialogue.Succeeds, Dialogue.runOn, stored] at succeeds
            contradiction
        | ok after => exact String.append_empty

/-! ## Checking -/

theorem specification_wellFormed {input : Input} {source : String} {members : List (String × Json)}
    (isSpecification : specification input source = .ok members) :
    Specification.FieldsWellFormed members := by
  unfold specification at isSpecification
  dsimp only at isSpecification
  split at isSpecification
  · contradiction
  · rename_i reading
    cases isSpecification
    exact Json.wellFormed_of_readWithin reading
  · contradiction

/-- The text that is compiled carries the fingerprint of the canonical text. The rest of it has that
text again exactly where the keys of the custom statements stand in the order of their texts. -/
theorem opened?_sealed_of_compile {members : List (String × Json)}
    (wellFormed : Specification.FieldsWellFormed members) {strict : Bool} {artifact : Artifact}
    {fingerprint : String}
    (compiled : (Session.compile members strict false).result = .ok (artifact, fingerprint))
    {layout : Json.Layout} (blank : layout.IsBlank) {output : String}
    (isOutput : artifact.sealed layout = .ok output) :
    ∃ configuration text rest,
      Specification.configuration members = .ok configuration ∧
      (configuration.compile strict false).result = .ok (artifact, Digest.sha256 text) ∧
      artifact.canonical = .ok text ∧
      Artifact.opened? (output ++ "\n") = some { fingerprint := .str (Digest.sha256 text), rest } ∧
      (rest = text ↔ ∀ statement ∈ configuration.statements, statement.KeysAscend) := by
  rcases Session.compile_eq_ok_iff.mp compiled with ⟨configuration, isConfiguration, compiled⟩
  rcases Configuration.compile_eq_ok_iff.mp compiled with ⟨-, isArtifact, written⟩
  rcases Artifact.exists_canonical_of_fingerprint written with ⟨text, canonical⟩
  have same : fingerprint = Digest.sha256 text :=
    Except.ok.inj (written.symm.trans (Artifact.fingerprint_of_canonical canonical))
  have ofArtifact := Configuration.artifact?_wellFormed
    (Specification.configuration_wellFormed wellFormed isConfiguration) isArtifact
  have lineFeed : Json.Blank "\n".toList := List.forall_mem_singleton.mpr rfl
  rcases Artifact.opened?_sealed ofArtifact canonical blank lineFeed with
    ⟨other, rest, isOther, opened, verifies⟩
  cases isOutput.symm.trans isOther
  rw [same] at compiled
  exact ⟨configuration, text, rest, isConfiguration, compiled, canonical, opened,
    verifies.trans (Configuration.artifact?_keysAscend_iff isArtifact)⟩

/-! ## The command -/

/-- The compile command ends well on an input only if it holds a specification, and hands out what is
compiled from it. -/
theorem Command.run_compile_handedOut {words : List String} {arguments : Arguments}
    (sorted : sortArguments Command.compile.usage.switches true words = .ok arguments)
    (noHelp : arguments.has helpSwitch.name = false)
    (succeeds : (Command.compile.run posture words).Succeeds files standardInput) :
    ∃ name source members artifact fingerprint output, arguments.words = [name] ∧
      (Input.ofName name).textOn files standardInput = .ok source ∧
      specification (Input.ofName name) source = .ok members ∧
      (Session.compile members posture.strict false).result = .ok (artifact, fingerprint) ∧
      artifact.sealed (if arguments.has prettySwitch.name then .ofWidth 2 else .compact) =
        .ok output ∧
      (Command.compile.run posture words).handedOut files standardInput = output ++ "\n" := by
  rcases Command.exists_delivery sorted noHelp succeeds with
    ⟨name, source, members, artifact, fingerprint, output, _, isName, isSource, isSpecification,
      compiled, isOutput, ⟨log, rfl⟩, sameRun, sameText⟩
  rw [Dialogue.Succeeds, sameRun] at succeeds
  exact ⟨name, source, members, artifact, fingerprint, output, isName, isSource, isSpecification,
    compiled, isOutput, sameText.trans (deliver_handedOut succeeds)⟩

private theorem isBlank_layout (pretty : Bool) :
    (if pretty then .ofWidth 2 else .compact : Json.Layout).IsBlank := by
  split
  · exact Json.Layout.isBlank_ofWidth 2
  · trivial

/-- What the compile command hands out holds the fingerprint of the canonical text. The rest of it has
that text again exactly where kinds of principals, tests and context keys stand in the order of their
texts, as they do where all of them are texts. -/
theorem compile_opened {words : List String} {arguments : Arguments}
    (sorted : sortArguments Command.compile.usage.switches true words = .ok arguments)
    (noHelp : arguments.has helpSwitch.name = false)
    (succeeds : (Command.compile.run posture words).Succeeds files standardInput) :
    ∃ name source members configuration artifact text rest,
      arguments.words = [name] ∧
      (Input.ofName name).textOn files standardInput = .ok source ∧
      specification (Input.ofName name) source = .ok members ∧
      Specification.configuration members = .ok configuration ∧
      (configuration.compile posture.strict false).result = .ok (artifact, Digest.sha256 text) ∧
      artifact.canonical = .ok text ∧
      Artifact.opened? ((Command.compile.run posture words).handedOut files standardInput) =
        some { fingerprint := .str (Digest.sha256 text), rest } ∧
      (rest = text ↔ ∀ statement ∈ configuration.statements, statement.KeysAscend) ∧
      ((∀ statement ∈ configuration.statements, statement.NamedByText) → rest = text) := by
  rcases Command.run_compile_handedOut sorted noHelp succeeds with
    ⟨name, source, members, artifact, fingerprint, output, isName, isSource, isSpecification,
      compiled, isOutput, handedOut⟩
  rcases opened?_sealed_of_compile (specification_wellFormed isSpecification) compiled
    (isBlank_layout _) isOutput with
    ⟨configuration, text, rest, isConfiguration, compiled, canonical, opened, verifies⟩
  rw [← handedOut] at opened
  exact ⟨name, source, members, configuration, artifact, text, rest, isName, isSource,
    isSpecification, isConfiguration, compiled, canonical, opened, verifies, fun named =>
      verifies.mpr fun statement member =>
        Statement.keysAscend_of_namedByText (named statement member)⟩

/-- A specification with one custom statement, for principals of two kinds. -/
private def sharedMembers (first second : Json) : List (String × Json) :=
  [("name", .str "archive"), ("environment", .str "prod"),
    ("encryption", .obj [("kmsKeyId",
      .str "arn:aws:kms:us-east-1:123456789012:key/12345678-1234-1234-1234-123456789012")]),
    ("policy", .obj [("statements", .arr [.obj [("actions", .str "s3:GetObject"),
      ("resources", .str "*"),
      ("principals", .arr [.obj [("type", first), ("identifiers", .str "a")],
        .obj [("type", second), ("identifiers", .str "b")]])]])])]

private def sharedSource (first second : Json) : String :=
  Json.print .compact (.obj (sharedMembers first second))

private abbrev textSource : String := sharedSource (.str "AWS") (.str "Service")

private abbrev numberSource : String := sharedSource (.int 2) (.int 10)

private def sharedStatement (first second : Json) : Statement :=
  { sid := .null
    effect := .str "Allow"
    principals := [{ kind := first, identifiers := [.str "a"] },
      { kind := second, identifiers := [.str "b"] }]
    actions := [.str "s3:GetObject"]
    resources := [.str "*"]
    conditions := [] }

private theorem statements_shared {first second : Json} {configuration : Configuration}
    (isConfiguration : Specification.configuration (sharedMembers first second) =
      .ok configuration) : configuration.statements = [sharedStatement first second] := by
  rw [← (Specification.configuration_eq_ok_iff.mp isConfiguration).2]
  rfl

private def lax : Posture := { strict := false, threshold := 20 }

private theorem sorted_pretty :
    sortArguments Command.compile.usage.switches true ["-", "--pretty"] =
      .ok { switches := [{ name := "--pretty", value := none }], words := ["-"] } := by
  decide +kernel

private theorem specification_texts : specification .standard textSource =
    .ok (sharedMembers (.str "AWS") (.str "Service")) := by
  rw [specification, textSource, sharedSource, Json.print, String.toList_ofList]
  decide +kernel

private theorem compile_texts_succeeds :
    (Command.compile.run lax ["-", "--pretty"]).Succeeds [] textSource := by
  rw [Dialogue.Succeeds, Command.runOn_of_specification sorted_pretty (by decide) rfl rfl rfl
    specification_texts]
  decide +kernel

/-- Kinds that are texts, in the layout with line breaks. -/
theorem compile_opened_of_texts :
    (Command.compile.run lax ["-", "--pretty"]).Succeeds [] textSource ∧
      ∃ text, Artifact.opened?
          ((Command.compile.run lax ["-", "--pretty"]).handedOut [] textSource) =
        some { fingerprint := .str (Digest.sha256 text), rest := text } := by
  refine ⟨compile_texts_succeeds, ?_⟩
  rcases compile_opened sorted_pretty (by decide) compile_texts_succeeds with
    ⟨name, source, members, configuration, artifact, text, rest, isName, isSource, isSpecification,
      isConfiguration, -, -, opened, -, verifies⟩
  cases isName
  have isSource := Except.ok.inj isSource
  subst source
  have isMembers := Except.ok.inj (specification_texts.symm.trans isSpecification)
  subst members
  have same : rest = text := by
    refine verifies ?_
    rw [statements_shared isConfiguration, List.forall_mem_singleton]
    exact
      { kinds := List.forall_mem_cons.mpr ⟨⟨_, rfl⟩, List.forall_mem_singleton.mpr ⟨_, rfl⟩⟩
        tests := List.forall_mem_nil _
        keys := List.forall_mem_nil _ }
  rw [same] at opened
  exact ⟨text, opened⟩

private theorem sorted_plain : sortArguments Command.compile.usage.switches true ["-"] =
    .ok { switches := [], words := ["-"] } := by
  decide +kernel

private theorem specification_numbers :
    specification .standard numberSource = .ok (sharedMembers (.int 2) (.int 10)) := by
  rw [specification, numberSource, sharedSource, Json.print, String.toList_ofList]
  decide +kernel

private theorem compile_numbers_succeeds :
    (Command.compile.run lax ["-"]).Succeeds [] numberSource := by
  rw [Dialogue.Succeeds, Command.runOn_of_specification sorted_plain (by decide) rfl rfl rfl
    specification_numbers]
  decide +kernel

private theorem numbers_descend : ¬(sharedStatement (.int 2) (.int 10)).KeysAscend := by
  intro ascend
  have kinds := ascend.principals _ rfl
  revert kinds
  unfold Scalar.TextsAscend
  decide +kernel

/-- Kinds that are numbers are written by size, and read back as texts in another order. -/
theorem compile_numbers_changes_text :
    ∃ artifact text rest,
      (Session.compile (sharedMembers (.int 2) (.int 10)) false false).result =
        .ok (artifact, Digest.sha256 text) ∧
      artifact.canonical = .ok text ∧
      (Command.compile.run lax ["-"]).Succeeds [] numberSource ∧
      Artifact.opened? ((Command.compile.run lax ["-"]).handedOut [] numberSource) =
        some { fingerprint := .str (Digest.sha256 text), rest } ∧
      rest ≠ text := by
  rcases Command.run_compile_handedOut sorted_plain (by decide) compile_numbers_succeeds with
    ⟨name, source, members, artifact, fingerprint, output, isName, isSource, isSpecification,
      compiled, isOutput, handedOut⟩
  cases isName
  have isSource := Except.ok.inj isSource
  subst source
  have isMembers := Except.ok.inj (specification_numbers.symm.trans isSpecification)
  subst members
  rcases opened?_sealed_of_compile (specification_wellFormed specification_numbers) compiled
    (isBlank_layout _) isOutput with
    ⟨configuration, text, rest, isConfiguration, compiled, canonical, opened, verifies⟩
  rw [← handedOut] at opened
  refine ⟨artifact, text, rest, Session.compile_eq_ok_iff.mpr ⟨_, isConfiguration, compiled⟩,
    canonical, compile_numbers_succeeds, opened, fun same => numbers_descend ?_⟩
  have ascend := verifies.mp same
  rwa [statements_shared isConfiguration, List.forall_mem_singleton] at ascend

end CommandLine

end BucketGuard
