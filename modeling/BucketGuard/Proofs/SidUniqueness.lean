import BucketGuard.Proofs.ItemErrors
import Mathlib.Data.List.Nodup

namespace BucketGuard

/-! Names of statements. Validation foretells the name under which every custom statement is
emitted, and finds fault with it exactly where it is no name, belongs to the baseline, or was taken
by an earlier statement. So an accepted configuration has a policy in which every statement has a
name of its own. -/

/-! ## Emitted names -/

theorem Policy.named_sid (index : Nat) (statement : Statement) :
    (named index statement).sid =
      if statement.sid = .null then .str (Sid.generated (index + 1)) else statement.sid := by
  unfold named
  split <;> rfl

theorem Json.isText_iff {value : Json} :
    value.isText ↔ ∃ text, value = .str text ∧ text ≠ "" := by
  cases value with
  | arr items => simp [isText]
  | obj members => simp [isText]
  | leaf value => cases value <;> simp [isText]

namespace Sid

/-- A statement may be left without a name. -/
def IsAcceptable (sid : Json) : Prop := sid = .null ∨ sid.isText

instance (sid : Json) : Decidable (IsAcceptable sid) :=
  inferInstanceAs (Decidable (sid = .null ∨ sid.isText))

theorem generated_ne_empty (position : Nat) : generated position ≠ "" := by
  have written : generated position = "CustomStatement" ++ toString position := rfl
  rw [written]
  simp

theorem emitted?_eq_none_iff {index : Nat} {sid : Json} :
    emitted? index sid = none ↔ ¬IsAcceptable sid := by
  cases sid with
  | arr items => simp [emitted?, IsAcceptable, Json.isText]
  | obj members => simp [emitted?, IsAcceptable, Json.isText]
  | leaf value => cases value <;> simp [emitted?, IsAcceptable, Json.isText]

/-- The name that validation foretells is the one that is emitted. -/
theorem emitted?_eq_some_iff {index : Nat} {statement : Statement} {name : String} :
    emitted? index statement.sid = some name ↔
      IsAcceptable statement.sid ∧ (Policy.named index statement).sid = .str name := by
  rw [Policy.named_sid]
  cases statement.sid with
  | arr items => simp [emitted?, IsAcceptable, Json.isText]
  | obj members => simp [emitted?, IsAcceptable, Json.isText]
  | leaf value =>
      cases value with
      | str text => by_cases empty : text = "" <;> simp [emitted?, IsAcceptable, Json.isText, empty]
      | _ => simp [emitted?, IsAcceptable, Json.isText]

end Sid

/-! ## Errors of names, by statement -/

namespace Statement

def pathAt (index : Nat) : Path := (Path.ofRoot "custom_statements").item index

def sidPath (index : Nat) : Path := (pathAt index).field "sid"

/-- The names under which the first of some statements are emitted, from an index on, behind those
that were seen. -/
def namesBefore (seen : List String) (index : Nat) : List Statement → List String
  | [] => seen
  | statement :: rest =>
      namesBefore ((Sid.emitted? index statement.sid).toList ++ seen) (index + 1) rest

theorem mem_namesBefore_iff {seen : List String} {index : Nat} {statements : List Statement}
    {name : String} :
    name ∈ namesBefore seen index statements ↔
      name ∈ seen ∨ ∃ (place : Nat) (statement : Statement), statements[place]? = some statement ∧
        Sid.emitted? (index + place) statement.sid = some name := by
  induction statements generalizing seen index with
  | nil => simp [namesBefore]
  | cons statement rest induction =>
      rw [namesBefore, induction, List.mem_append, Option.mem_toList]
      constructor
      · rintro ((own | earlier) | ⟨place, other, found, emitted⟩)
        · exact .inr ⟨0, statement, rfl, own⟩
        · exact .inl earlier
        · exact .inr ⟨place + 1, other, found, by rwa [Nat.add_right_comm, Nat.add_assoc] at emitted⟩
      · rintro (earlier | ⟨place, other, found, emitted⟩)
        · exact .inl (.inr earlier)
        · cases place with
          | zero =>
              cases found
              exact .inl (.inl emitted)
          | succ place =>
              refine .inr ⟨place, other, found, ?_⟩
              rwa [Nat.add_right_comm, Nat.add_assoc]

theorem listErrors_cons (seen : List String) (index : Nat) (statement : Statement)
    (rest : List Statement) :
    listErrors seen index (statement :: rest) =
      (statement.contentErrors (pathAt index) ++
        sidErrors (sidPath index) seen index statement.sid) ++
      listErrors ((Sid.emitted? index statement.sid).toList ++ seen) (index + 1) rest := rfl

/-! Errors of one statement lie under its place, and those of its contents not at its name. -/

theorem isAbove_of_mem_textErrors {path : Path} {problem : Json → Problem} {index : Nat}
    {items : List Json} {error : FieldError}
    (member : error ∈ Json.textErrors path problem index items) : path.IsAbove error := by
  rw [Json.textErrors_eq_flagEach] at member
  exact Path.isAbove_of_mem_flagEach member

private theorem isAbove_of_mem_principalErrors {path : Path} {index : Nat}
    {sets : List PrincipalSet} {error : FieldError}
    (member : error ∈ PrincipalSet.listErrors path index sets) : path.IsAbove error := by
  rw [PrincipalSet.listErrors_eq_flagEach] at member
  exact Path.isAbove_of_mem_flagEach member

/-- The fields of a statement in which its contents are judged. -/
def contentFields : List String := ["actions", "resources", "effect", "principals"]

theorem isPlainName_of_mem_contentFields :
    ∀ {name : String}, name ∈ contentFields → IsPlainName name := by
  decide

theorem isAbove_of_mem_contentErrors {path : Path} {statement : Statement} {error : FieldError}
    (member : error ∈ statement.contentErrors path) :
    ∃ name ∈ contentFields, (path.field name).IsAbove error := by
  simp only [contentErrors, List.mem_append] at member
  rcases member with ((((isEmpty | action) | isEmpty) | resource) | effect) | principal
  · exact ⟨"actions", by decide, Path.isAbove_of_mem_flag isEmpty⟩
  · exact ⟨"actions", by decide, isAbove_of_mem_textErrors action⟩
  · exact ⟨"resources", by decide, Path.isAbove_of_mem_flag isEmpty⟩
  · exact ⟨"resources", by decide, isAbove_of_mem_textErrors resource⟩
  · exact ⟨"effect", by decide, Path.isAbove_of_mem_flag effect⟩
  · exact ⟨"principals", by decide, isAbove_of_mem_principalErrors principal⟩

theorem path_of_mem_sidErrors {path : Path} {seen : List String} {index : Nat} {sid : Json}
    {error : FieldError} (member : error ∈ sidErrors path seen index sid) : error.path = path := by
  unfold sidErrors at member
  split at member
  · exact congrArg FieldError.path (List.mem_singleton.mp member)
  · split at member
    · exact congrArg FieldError.path (List.mem_singleton.mp member)
    · exact Path.path_of_mem_flag member

private theorem isAbove_of_mem_own {index : Nat} {statement : Statement} {seen : List String}
    {error : FieldError}
    (member : error ∈ statement.contentErrors (pathAt index) ++
      sidErrors (sidPath index) seen index statement.sid) : (pathAt index).IsAbove error := by
  rcases List.mem_append.mp member with content | sid
  · rcases isAbove_of_mem_contentErrors content with ⟨name, isContent, above⟩
    exact above.of_field (isPlainName_of_mem_contentFields isContent)
  · exact (Path.isAbove_of_eq (path_of_mem_sidErrors sid)).of_field (by decide)

theorem isAbove_of_mem_listErrors {seen : List String} {index : Nat}
    {statements : List Statement} {error : FieldError}
    (member : error ∈ listErrors seen index statements) :
    ∃ place, index ≤ place ∧ (pathAt place).IsAbove error := by
  induction statements generalizing seen index with
  | nil => contradiction
  | cons statement rest induction =>
      rcases List.mem_append.mp member with own | later
      · exact ⟨index, Nat.le_refl index, isAbove_of_mem_own own⟩
      · rcases induction later with ⟨place, isLater, above⟩
        exact ⟨place, Nat.le_of_succ_le isLater, above⟩

/-! What is reported below a statement is what it gives rise to itself. -/

/-- The errors at a place below one of the statements. -/
theorem filter_listErrors (seen : List String) (index place : Nat) (statements : List Statement)
    {path : Path}
    (below : ∀ error : FieldError, error.path = path → (pathAt (index + place)).IsAbove error) :
    (listErrors seen index statements).filter (·.path = path) =
      match statements[place]? with
      | none => []
      | some statement =>
          (statement.contentErrors (pathAt (index + place))).filter (·.path = path) ++
            (sidErrors (sidPath (index + place)) (namesBefore seen index (statements.take place))
              (index + place) statement.sid).filter (·.path = path) := by
  induction statements generalizing seen index place with
  | nil => rfl
  | cons first rest induction =>
      rw [listErrors_cons, List.filter_append]
      cases place with
      | zero =>
          have later : (listErrors ((Sid.emitted? index first.sid).toList ++ seen) (index + 1)
              rest).filter (·.path = path) = [] := by
            apply Path.filter_eq_nil
            intro error member equal
            rcases isAbove_of_mem_listErrors member with ⟨place, isLater, above⟩
            exact Nat.ne_of_gt isLater (above.item_unique (below error equal))
          rw [later, List.append_nil, List.filter_append]
          rfl
      | succ place =>
          have own : (first.contentErrors (pathAt index) ++
              sidErrors (sidPath index) seen index first.sid).filter (·.path = path) = [] := by
            apply Path.filter_eq_nil
            intro error member equal
            have same : index = index + (place + 1) :=
              (isAbove_of_mem_own member).item_unique (below error equal)
            omega
          have isLater : index + (place + 1) = index + 1 + place := by omega
          rw [isLater] at below ⊢
          rw [own, List.nil_append]
          exact induction _ (index + 1) place below

theorem content_ne_sidPath {index : Nat} {statement : Statement} {error : FieldError}
    (member : error ∈ statement.contentErrors (pathAt index)) : error.path ≠ sidPath index := by
  intro equal
  rcases isAbove_of_mem_contentErrors member with ⟨name, isContent, above⟩
  have same : name = "sid" := above.field_unique (Path.isAbove_of_eq equal)
  subst same
  revert isContent
  decide

/-- The errors at the name of a statement, after the names of the statements before it. -/
theorem listErrors_at_sid (seen : List String) (index place : Nat) (statements : List Statement) :
    (listErrors seen index statements).filter (·.path = sidPath (index + place)) =
      match statements[place]? with
      | none => []
      | some statement =>
          sidErrors (sidPath (index + place)) (namesBefore seen index (statements.take place))
            (index + place) statement.sid := by
  have below (error : FieldError) (equal : error.path = sidPath (index + place)) :
      (pathAt (index + place)).IsAbove error :=
    (show (sidPath (index + place)).IsAbove error from Path.isAbove_of_eq equal).of_field
      (by decide)
  rw [filter_listErrors seen index place statements below]
  cases statements[place]? with
  | none => rfl
  | some statement =>
      have content : (statement.contentErrors (pathAt (index + place))).filter
          (·.path = sidPath (index + place)) = [] :=
        Path.filter_eq_nil fun error member => content_ne_sidPath member
      simp only [content, List.nil_append]
      exact Path.filter_eq_self fun error member => path_of_mem_sidErrors member

/-! ## Names at fault -/

/-- The name of a statement is at fault: it was given but is none, it belongs to the baseline, or an
earlier statement is emitted under it. -/
def SidAtFault (statements : List Statement) (index : Nat) (statement : Statement) : Prop :=
  ¬Sid.IsAcceptable statement.sid ∨
    (Policy.named index statement).sid ∈ Sid.baseline.map Tree.str ∨
    ∃ (place : Nat) (earlier : Statement), place < index ∧ statements[place]? = some earlier ∧
      Sid.IsAcceptable earlier.sid ∧
      (Policy.named place earlier).sid = (Policy.named index statement).sid

theorem not_sidAtFault_iff {statements : List Statement} {index : Nat} {statement : Statement} :
    ¬SidAtFault statements index statement ↔
      Sid.IsAcceptable statement.sid ∧
        (Policy.named index statement).sid ∉ Sid.baseline.map Tree.str ∧
        ∀ (place : Nat) (earlier : Statement), place < index → statements[place]? = some earlier →
          Sid.IsAcceptable earlier.sid →
            (Policy.named place earlier).sid ≠ (Policy.named index statement).sid := by
  simp only [SidAtFault, not_or, Decidable.not_not, not_exists, not_and, ne_eq]

theorem length_sidErrors_le (path : Path) (seen : List String) (index : Nat) (sid : Json) :
    (sidErrors path seen index sid).length ≤ 1 := by
  unfold sidErrors Path.flag
  split
  · exact Nat.le_refl 1
  · split
    · exact Nat.le_refl 1
    · split
      · exact Nat.le_refl 1
      · exact Nat.zero_le 1

private theorem mem_namesBefore_take_iff {statements : List Statement} {index : Nat}
    {name : String} :
    name ∈ namesBefore [] 0 (statements.take index) ↔
      ∃ (place : Nat) (earlier : Statement), place < index ∧ statements[place]? = some earlier ∧
        Sid.emitted? place earlier.sid = some name := by
  rw [mem_namesBefore_iff]
  simp only [List.not_mem_nil, false_or, Nat.zero_add, List.getElem?_take,
    Option.ite_none_right_eq_some, and_assoc]

/-- Something is reported at the name of a statement if it is at fault, and only then. -/
theorem sidErrors_ne_nil_iff (path : Path) {statements : List Statement} {index : Nat}
    {statement : Statement} :
    sidErrors path (namesBefore [] 0 (statements.take index)) index statement.sid ≠ [] ↔
      SidAtFault statements index statement := by
  unfold sidErrors SidAtFault
  cases emitted : Sid.emitted? index statement.sid with
  | none => simp [Sid.emitted?_eq_none_iff.mp emitted]
  | some name =>
      rcases Sid.emitted?_eq_some_iff.mp emitted with ⟨acceptable, isName⟩
      have taken : name ∈ namesBefore [] 0 (statements.take index) ↔
          ∃ (place : Nat) (earlier : Statement), place < index ∧
            statements[place]? = some earlier ∧ Sid.IsAcceptable earlier.sid ∧
            (Policy.named place earlier).sid = (Policy.named index statement).sid := by
        rw [mem_namesBefore_take_iff, isName]
        simp only [Sid.emitted?_eq_some_iff]
      have ofBaseline : (Policy.named index statement).sid ∈ Sid.baseline.map Tree.str ↔
          name ∈ Sid.baseline := by
        rw [isName, List.mem_map]
        simp
      rw [ofBaseline, ← taken]
      by_cases reserved : name ∈ Sid.baseline
      · simp [reserved]
      · simp [reserved, acceptable, Path.flag]

end Statement

/-! ## Errors of names, by the texts of their places -/

namespace Configuration

theorem sidPath_text (index : Nat) :
    (Statement.sidPath index).text = s!"custom_statements[{index}].sid" :=
  Path.text_field_item "custom_statements" index "sid"

theorem field_eq_iff_of_mem_statementErrors {configuration : Configuration} {error : FieldError}
    (member : error ∈ configuration.statementErrors) (index : Nat) :
    error.field = s!"custom_statements[{index}].sid" ↔ error.path = Statement.sidPath index := by
  rw [← sidPath_text, FieldError.field]
  constructor
  · intro equal
    rcases Statement.isAbove_of_mem_listErrors member with ⟨place, -, above⟩
    have root : (Path.ofRoot "custom_statements").IsPlain := Path.isPlain_ofRoot (by decide)
    exact Path.text_injective (above.isPlain (root.item place))
      ((root.item index).field (by decide)) equal
  · exact congrArg Path.text

/-- What is reported at the name of the statement at an index. -/
theorem statementErrors_at_sid (configuration : Configuration) (index : Nat) :
    configuration.statementErrors.filter
        (·.field = s!"custom_statements[{index}].sid") =
      match configuration.statements[index]? with
      | none => []
      | some statement =>
          Statement.sidErrors (Statement.sidPath index)
            (Statement.namesBefore [] 0 (configuration.statements.take index)) index
            statement.sid := by
  have paths := Statement.listErrors_at_sid [] 0 index configuration.statements
  rw [Nat.zero_add] at paths
  rw [← paths]
  apply List.filter_congr
  intro error member
  simp only [field_eq_iff_of_mem_statementErrors member]

end Configuration

/-! ## Policies -/

namespace Policy

/-- The statements of the baseline with the one for trusted principals, in the order of their
names. -/
def baseline (arn : BucketArn) (configuration : Configuration) : List Statement :=
  [denyInsecureTransport arn,
    allowTrusted arn configuration.trustedPrincipals configuration.trustedActions,
    denyUnencryptedUploads arn, denyIncorrectKey arn configuration.encryptionKey]

theorem baseline_sids (arn : BucketArn) (configuration : Configuration) :
    (baseline arn configuration).map Statement.sid = Sid.baseline.map Tree.str := rfl

theorem getElem?_customFrom (index place : Nat) (statements : List Statement) :
    (customFrom index statements)[place]? = statements[place]?.map (named (index + place)) := by
  induction statements generalizing index place with
  | nil => rfl
  | cons statement rest induction =>
      cases place with
      | zero => rfl
      | succ place =>
          rw [customFrom, List.getElem?_cons_succ, List.getElem?_cons_succ, induction,
            Nat.add_right_comm, Nat.add_assoc]

/-- The policy begins with statements of the baseline and goes on with the custom ones. -/
theorem exists_front (arn : BucketArn) (configuration : Configuration) :
    ∃ front, front.Sublist (baseline arn configuration) ∧
      (statements arn configuration).map Prod.snd =
        front ++ customFrom 0 configuration.statements := by
  rw [map_snd_statements]
  refine ⟨_, ?_, rfl⟩
  split
  · exact (List.sublist_cons_self ..).cons_cons _
  · exact List.Sublist.refl _

section Faultless

variable {configuration : Configuration}
  (faultless : ∀ (index : Nat) (statement : Statement),
    configuration.statements[index]? = some statement →
      ¬Statement.SidAtFault configuration.statements index statement)

include faultless

private theorem faultless_of_mem {statement : Statement}
    (member : statement ∈ customFrom 0 configuration.statements) :
    statement.sid.isText ∧ statement.sid ∉ Sid.baseline.map Tree.str := by
  rcases List.getElem?_of_mem member with ⟨index, found⟩
  rw [getElem?_customFrom, Nat.zero_add, Option.map_eq_some_iff] at found
  rcases found with ⟨given, found, rfl⟩
  rcases Statement.not_sidAtFault_iff.mp (faultless index given found) with
    ⟨acceptable, notReserved, -⟩
  refine ⟨?_, notReserved⟩
  rw [named_sid]
  split
  · simp [Json.isText, Sid.generated_ne_empty]
  · rename_i isGiven
    exact acceptable.resolve_left isGiven

private theorem nodup_custom_sids :
    ((customFrom 0 configuration.statements).map Statement.sid).Nodup := by
  rw [List.Nodup, List.pairwise_iff_getElem]
  intro first second isFirst isSecond ordered equal
  rw [List.length_map] at isFirst isSecond
  rw [List.getElem_map, List.getElem_map] at equal
  have foundFirst := List.getElem?_eq_getElem isFirst
  have foundSecond := List.getElem?_eq_getElem isSecond
  rw [getElem?_customFrom, Nat.zero_add, Option.map_eq_some_iff] at foundFirst foundSecond
  rcases foundFirst with ⟨earlier, foundFirst, isEarlier⟩
  rcases foundSecond with ⟨later, foundSecond, isLater⟩
  rw [← isEarlier, ← isLater] at equal
  rcases Statement.not_sidAtFault_iff.mp (faultless first earlier foundFirst) with ⟨acceptable, -, -⟩
  rcases Statement.not_sidAtFault_iff.mp (faultless second later foundSecond) with ⟨-, -, fresh⟩
  exact fresh first earlier ordered foundFirst acceptable equal

/-- Every statement of the policy has a name of its own. -/
theorem nodup_sids (arn : BucketArn) :
    (((statements arn configuration).map Prod.snd).map Statement.sid).Nodup := by
  rcases exists_front arn configuration with ⟨front, isFront, equal⟩
  rw [equal, List.map_append, List.nodup_append]
  have ofBaseline : (front.map Statement.sid).Sublist (Sid.baseline.map Tree.str) :=
    isFront.map Statement.sid
  refine ⟨ofBaseline.nodup (by decide), nodup_custom_sids faultless, ?_⟩
  intro first isFirst second isSecond
  rcases List.mem_map.mp isSecond with ⟨statement, member, rfl⟩
  rintro rfl
  exact (faultless_of_mem faultless member).2 (ofBaseline.subset isFirst)

theorem isText_sid_of_mem {arn : BucketArn} {statement : Statement}
    (member : statement ∈ (statements arn configuration).map Prod.snd) : statement.sid.isText := by
  rcases exists_front arn configuration with ⟨front, isFront, equal⟩
  rw [equal, List.mem_append] at member
  rcases member with ofFront | custom
  · have texts : ∀ sid ∈ Sid.baseline.map Tree.str, Json.isText sid := by decide
    apply texts
    rw [← baseline_sids arn configuration]
    exact List.mem_map_of_mem (isFront.subset ofFront)
  · exact (faultless_of_mem faultless custom).1

/-- A name of the baseline stands on its own statement alone. -/
theorem eq_of_sid_eq_baseline {arn : BucketArn} {own statement : Statement}
    (isOwn : own ∈ baseline arn configuration)
    (member : statement ∈ (statements arn configuration).map Prod.snd)
    (same : statement.sid = own.sid) : statement = own := by
  rcases exists_front arn configuration with ⟨front, isFront, equal⟩
  have reserved : own.sid ∈ Sid.baseline.map Tree.str := by
    rw [← baseline_sids arn configuration]
    exact List.mem_map_of_mem isOwn
  rw [equal, List.mem_append] at member
  rcases member with ofFront | custom
  · have nodup : ((baseline arn configuration).map Statement.sid).Nodup := by
      rw [baseline_sids]
      decide
    exact List.inj_on_of_nodup_map nodup (isFront.subset ofFront) isOwn same
  · exact absurd (same ▸ reserved) (faultless_of_mem faultless custom).2

end Faultless

end Policy

namespace Configuration

/-- The resource names for the bucket and the key that an accepted configuration names. -/
theorem arn?_of_accepted {configuration : Configuration} {name key : String} {arn : KeyArn}
    (isName : configuration.name = .str name) (isKey : configuration.encryptionKey = .str key)
    (parsed : KeyArn.parse? key = some arn) :
    configuration.arn? = some (BucketArn.ofName (String.ofList arn.partition) name) := by
  rw [arn?, partition?, isKey, isName]
  simp only [parsed]
  rfl

/-- Nothing is wrong with the names of an accepted configuration. -/
theorem faultless_of_accepted {configuration : Configuration}
    (accepted : configuration.statementErrors = []) {index : Nat} {statement : Statement}
    (found : configuration.statements[index]? = some statement) :
    ¬Statement.SidAtFault configuration.statements index statement := by
  have reported := configuration.statementErrors_at_sid index
  rw [accepted, found, List.filter_nil] at reported
  rw [← Statement.sidErrors_ne_nil_iff (Statement.sidPath index), Decidable.not_not]
  exact reported.symm

/-- In the policy of an accepted configuration every statement has a name of its own, and the names
of the baseline are on its statements alone. Of any configuration, accepted or not, validation
reports an error at the name of a statement, and one only, if that name is at fault. -/
theorem sids_unique (configuration : Configuration) :
    (∀ strict, (configuration.validate strict).result = .ok () →
      ∃ arn statements, configuration.arn? = some arn ∧
        configuration.compose.result = .ok statements ∧
        (∀ statement ∈ statements, ∃ name, statement.sid = .str name ∧ name ≠ "") ∧
        (statements.map Statement.sid).Nodup ∧
        ∀ own ∈ Policy.baseline arn configuration,
          (statements.map Statement.sid).count own.sid ≤ 1 ∧
          ∀ statement ∈ statements, statement.sid = own.sid → statement = own) ∧
    ∀ index : Nat,
      ((∃ error ∈ configuration.statementErrors,
          error.field = s!"custom_statements[{index}].sid") ↔
        ∃ statement, configuration.statements[index]? = some statement ∧
          Statement.SidAtFault configuration.statements index statement) ∧
      (configuration.statementErrors.filter
        (·.field = s!"custom_statements[{index}].sid")).length ≤ 1 := by
  constructor
  · intro strict accepted
    rw [validate_result, Except.mapError_eq_ok_iff, check_eq_ok_iff] at accepted
    rcases errors_eq_nil_iff.mp accepted with ⟨nameErrors, -, keyErrors, -, -, noErrors, -⟩
    rcases exists_name nameErrors with ⟨name, isName⟩
    rcases exists_encryptionKey keyErrors with ⟨key, arn, isKey, parsed⟩
    have isArn := arn?_of_accepted isName isKey parsed
    have faultless (index : Nat) (statement : Statement)
        (found : configuration.statements[index]? = some statement) :=
      faultless_of_accepted noErrors found
    have nodup := Policy.nodup_sids faultless (BucketArn.ofName (String.ofList arn.partition) name)
    refine ⟨_, _, isArn, ?_, ?_, nodup, ?_⟩
    · rw [compose, policy?, isArn]
      rfl
    · intro statement member
      exact Json.isText_iff.mp (Policy.isText_sid_of_mem faultless member)
    · intro own isOwn
      exact ⟨List.nodup_iff_count.mp nodup own.sid, fun statement member same =>
        Policy.eq_of_sid_eq_baseline faultless isOwn member same⟩
  · intro index
    have reported := configuration.statementErrors_at_sid index
    constructor
    · have someError : (∃ error ∈ configuration.statementErrors,
          error.field = s!"custom_statements[{index}].sid") ↔
          configuration.statementErrors.filter
            (·.field = s!"custom_statements[{index}].sid") ≠ [] := by
        simp only [ne_eq, List.filter_eq_nil_iff, decide_eq_true_eq, not_forall, not_not,
          exists_prop]
      rw [someError, reported]
      cases found : configuration.statements[index]? with
      | none => simp
      | some statement => simp [← Statement.sidErrors_ne_nil_iff (Statement.sidPath index)]
    · rw [reported]
      split
      · exact Nat.zero_le 1
      · exact Statement.length_sidErrors_le ..

private def reading (sid : Json) : Statement :=
  { sid, effect := .str "Allow", principals := [], actions := [.str "s3:GetObject"]
    resources := [.str "*"], conditions := [] }

/-- The second statement has no name, and the first one takes the name of a position. -/
private def mirror (first : String) : Configuration :=
  { name := .str "mirror", environment := .str "test"
    encryptionKey := .str
      "arn:aws:kms:eu-west-1:123456789012:key/12345678-1234-1234-1234-123456789012"
    loggingBucket := .null, loggingPrefix := .null, lockEnabled := .bool false, lock := none
    trustedPrincipals := [.str "role/A"], trustedActions := none, lifecycleRules := []
    statements := [reading (.str first), reading .null], corsRules := [], tags := [] }

theorem sids_unique_of_mirror :
    ((mirror "CustomStatement3").validate true).result = .ok () ∧
      (∃ statements, (mirror "CustomStatement3").compose.result = .ok statements ∧
        (statements.map Statement.sid).Nodup) ∧
      ∃ error ∈ (mirror "CustomStatement2").statementErrors,
        error.field = "custom_statements[1].sid" := by
  have accepted : ((mirror "CustomStatement3").validate true).result = .ok () := by
    rw [validate_result, Except.mapError_eq_ok_iff, check_eq_ok_iff]
    decide +kernel
  refine ⟨accepted, ?_, ?_⟩
  · rcases (sids_unique (mirror "CustomStatement3")).1 true accepted with
      ⟨arn, statements, -, composed, -, nodup, -⟩
    exact ⟨statements, composed, nodup⟩
  · refine (((sids_unique (mirror "CustomStatement2")).2 1).1).mpr ⟨reading .null, rfl, ?_⟩
    exact .inr (.inr ⟨0, reading (.str "CustomStatement2"), Nat.one_pos, rfl, .inr rfl, rfl⟩)

end Configuration

end BucketGuard
