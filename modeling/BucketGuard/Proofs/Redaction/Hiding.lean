import BucketGuard.Proofs.Json.Tree
import BucketGuard.Redaction

namespace BucketGuard.Redaction

/-! What redaction hides of an object. Two objects are redacted to one exactly if they agree in
everything that is shown of them. A list is shown as it is, and a word makes a key sensitive only in
lower case, so a secret inside a list, or under a key that a word with capitals names, is not
hidden. -/

/-- How two values are compared: which keys hide what stands under them, which scalars count as
equal, and whether lists are compared item by item or as they are. -/
structure Comparison where
  hides : String → Bool
  equates : Scalar → Scalar → Prop
  entersLists : Bool

mutual
/-- The values agree but for what stands under keys that hide it, at whatever depth. -/
def Agree (comparison : Comparison) : Json → Json → Prop
  | .leaf left, .leaf right => comparison.equates left right
  | .arr left, .arr right =>
      if comparison.entersLists then ItemsAgree comparison left right else left = right
  | .obj left, .obj right => MembersAgree comparison left right
  | _, _ => False

def ItemsAgree (comparison : Comparison) : List Json → List Json → Prop
  | [], [] => True
  | left :: lefts, right :: rights =>
      Agree comparison left right ∧ ItemsAgree comparison lefts rights
  | _, _ => False

def MembersAgree (comparison : Comparison) :
    List (String × Json) → List (String × Json) → Prop
  | [], [] => True
  | (key, left) :: lefts, (other, right) :: rights =>
      key = other ∧ (comparison.hides key = true ∨ Agree comparison left right) ∧
        MembersAgree comparison lefts rights
  | _, _ => False
end

/-- A scalar as it is shown. -/
def redactScalar : Scalar → Scalar
  | .str text => .str (redact text)
  | value => value

/-- Values are compared by what redaction shows of them. -/
def asShown (words : List String) : Comparison :=
  { hides := isSensitive words
    equates := fun left right => redactScalar left = redactScalar right
    entersLists := false }

/-- A sensitive field or one of the further words occurs in the key, whatever the case of both. -/
def namesSecret (further : List String) (key : String) : Bool :=
  isSensitive ((sensitiveFields ++ further).map Text.lower) key

/-- Values are compared without their secrets. -/
def withoutSecrets (further : List String) (entersLists : Bool) : Comparison :=
  { hides := namesSecret further, equates := Eq, entersLists }

/-! ## Redacting values -/

theorem redactValue_leaf (words : List String) (value : Scalar) :
    redactValue words (.leaf value) = .leaf (redactScalar value) := by
  cases value <;> rfl

private theorem redactValue_arr (words : List String) (items : List Json) :
    redactValue words (.arr items) = .arr items := rfl

private theorem redactValue_obj (words : List String) (members : List (String × Json)) :
    redactValue words (.obj members) = .obj (redactMembers words members) := rfl

private theorem redactMembers_eq_iff {words : List String} {left right : List (String × Json)}
    (values : ∀ member ∈ left, ∀ other,
      redactValue words member.2 = redactValue words other ↔ Agree (asShown words) member.2 other) :
    redactMembers words left = redactMembers words right ↔
      MembersAgree (asShown words) left right := by
  induction left generalizing right with
  | nil => cases right <;> simp [redactMembers, MembersAgree]
  | cons member rest induction =>
      cases right with
      | nil => simp [redactMembers, MembersAgree]
      | cons other others =>
          have ofRest : redactMembers words rest = redactMembers words others ↔
              MembersAgree (asShown words) rest others :=
            induction fun later isLater => values later (.tail _ isLater)
          rw [redactMembers, redactMembers, List.cons.injEq, Prod.mk.injEq, ofRest, MembersAgree,
            ← values member (.head _), and_assoc]
          refine and_congr_right fun (same : member.1 = other.1) => and_congr_left' ?_
          rw [← same]
          cases sensitive : isSensitive words member.1 <;> simp [asShown, sensitive]

/-- Values are redacted to one if they agree in what is shown, and only then. -/
theorem redactValue_eq_iff {words : List String} {left right : Json} :
    redactValue words left = redactValue words right ↔ Agree (asShown words) left right := by
  induction left using Tree.inductionOn generalizing right with
  | leaf value =>
      cases right <;> simp [redactValue_leaf, redactValue_arr, redactValue_obj, Agree, asShown]
  | arr items =>
      cases right <;> simp [redactValue_leaf, redactValue_arr, redactValue_obj, Agree, asShown]
  | obj members induction =>
      cases right with
      | obj others =>
          rw [redactValue_obj, redactValue_obj, Tree.obj.injEq, Agree]
          exact redactMembers_eq_iff fun member isMember other => induction member isMember
      | _ => simp [redactValue_leaf, redactValue_arr, redactValue_obj, Agree]

/-! ## Comparing less strictly -/

/-- The second comparison hides and equates all that the first one does, and neither of them enters
lists. -/
structure Comparison.Weakens (first second : Comparison) : Prop where
  hides : ∀ key, first.hides key = true → second.hides key = true
  equates : ∀ left right, first.equates left right → second.equates left right
  firstList : first.entersLists = false
  secondList : second.entersLists = false

private theorem membersAgree_of_weakens {first second : Comparison}
    (weakens : first.Weakens second) {left right : List (String × Json)}
    (values : ∀ member ∈ left, ∀ other,
      Agree first member.2 other → Agree second member.2 other)
    (agree : MembersAgree first left right) : MembersAgree second left right := by
  induction left generalizing right with
  | nil => cases right with
    | nil => trivial
    | cons other others => exact agree.elim
  | cons member rest induction =>
      cases right with
      | nil => exact agree.elim
      | cons other others =>
          rcases agree with ⟨same, value, later⟩
          exact ⟨same, value.imp (weakens.hides _) (values member (.head _) other.2),
            induction (fun member isMember => values member (.tail _ isMember)) later⟩

theorem agree_of_weakens {first second : Comparison} (weakens : first.Weakens second)
    {left right : Json} (agree : Agree first left right) : Agree second left right := by
  induction left using Tree.inductionOn generalizing right with
  | leaf value => cases right with
    | leaf other => exact weakens.equates value other agree
    | arr items => exact agree.elim
    | obj members => exact agree.elim
  | arr items => cases right with
    | leaf other => exact agree.elim
    | arr others => simpa [Agree, weakens.firstList, weakens.secondList] using agree
    | obj members => exact agree.elim
  | obj members induction => cases right with
    | leaf other => exact agree.elim
    | arr items => exact agree.elim
    | obj others =>
        exact membersAgree_of_weakens weakens
          (fun member isMember other => induction member isMember) agree

/-- Secrets that words in lower case name, outside of lists, are not shown. -/
theorem weakens_asShown {further : List String}
    (lower : ∀ word ∈ further, Text.lower word = word) :
    (withoutSecrets further false).Weakens (asShown (sensitiveFields ++ further)) := by
  have fields : ∀ word ∈ sensitiveFields, Text.lower word = word := by decide +kernel
  have words : (sensitiveFields ++ further).map Text.lower = sensitiveFields ++ further :=
    (List.map_congr_left (List.forall_mem_append.mpr ⟨fields, lower⟩)).trans (List.map_id _)
  have hides (key : String) (secret : (withoutSecrets further false).hides key = true) :
      (asShown (sensitiveFields ++ further)).hides key = true := by
    simp only [withoutSecrets, namesSecret, words] at secret
    simpa only [asShown] using secret
  exact
    { hides
      equates := fun _ _ => congrArg redactScalar
      firstList := rfl
      secondList := rfl }

/-! ## Redacting objects -/

/-- Objects are redacted to one exactly if they agree in what is shown of them. So secrets make no
difference where the words that name them are in lower case and no list is around them. -/
theorem redactObject_eq_iff_agree (further : List String) (left right : List (String × Json)) :
    (redactObject further left = redactObject further right ↔
      Agree (asShown (sensitiveFields ++ further)) (.obj left) (.obj right)) ∧
      ((∀ word ∈ further, Text.lower word = word) →
        Agree (withoutSecrets further false) (.obj left) (.obj right) →
          redactObject further left = redactObject further right) := by
  have shown : redactObject further left = redactObject further right ↔
      Agree (asShown (sensitiveFields ++ further)) (.obj left) (.obj right) := by
    rw [← redactValue_eq_iff, redactValue_obj, redactValue_obj, Tree.obj.injEq, redactObject,
      redactObject]
  exact ⟨shown, fun lower agree => shown.mpr (agree_of_weakens (weakens_asShown lower) agree)⟩

/-- Keys with capitals, one of them inside another object. -/
theorem redactObject_eq_of_nested :
    redactObject ["apikey"]
        [("bucket", .str "logs"), ("ApiKey", .int 1), ("login", .obj [("Password", .str "a")])] =
      redactObject ["apikey"]
        [("bucket", .str "logs"), ("ApiKey", .null), ("login", .obj [("Password", .arr [])])] := by
  have apiKey : namesSecret ["apikey"] "ApiKey" = true := by decide +kernel
  have password : namesSecret ["apikey"] "Password" = true := by decide +kernel
  have lower : ∀ word ∈ ["apikey"], Text.lower word = word := by decide +kernel
  exact (redactObject_eq_iff_agree ["apikey"] _ _).2 lower
    ⟨rfl, .inr rfl, rfl, .inl apiKey, rfl, .inr ⟨rfl, .inl password, trivial⟩, trivial⟩

/-- The objects differ in a password inside a list, or under a key that is one of the further words,
and so do their redactions. -/
theorem redactObject_shows_secrets :
    (Agree (withoutSecrets [] true) (.obj [("logins", .arr [.obj [("password", .str "a")]])])
        (.obj [("logins", .arr [.obj [("password", .str "b")]])]) ∧
      redactObject [] [("logins", .arr [.obj [("password", .str "a")]])] ≠
        redactObject [] [("logins", .arr [.obj [("password", .str "b")]])]) ∧
      Agree (withoutSecrets ["ApiKey"] true) (.obj [("ApiKey", .int 1)])
        (.obj [("ApiKey", .int 2)]) ∧
      redactObject ["ApiKey"] [("ApiKey", .int 1)] ≠
        redactObject ["ApiKey"] [("ApiKey", .int 2)] := by
  have password : namesSecret [] "password" = true := by decide +kernel
  have apiKey : namesSecret ["ApiKey"] "ApiKey" = true := by decide +kernel
  have logins : isSensitive sensitiveFields "logins" = false := by decide +kernel
  have notLower : isSensitive (sensitiveFields ++ ["ApiKey"]) "ApiKey" = false := by
    decide +kernel
  refine ⟨⟨⟨rfl, .inr ⟨⟨rfl, .inl password, trivial⟩, trivial⟩, trivial⟩, ?_⟩,
    ⟨rfl, .inl apiKey, trivial⟩, ?_⟩
  · simp [redactObject, redactMembers, redactValue, logins]
  · simp [redactObject, redactMembers, redactValue, notLower]

end BucketGuard.Redaction
