import BucketGuard.Proofs.BlankPlaces
import BucketGuard.Proofs.ItemOrder

namespace BucketGuard

/-! The shape of specifications. What is read depends on the sections and lists that are there: a
misshapen place is reported, an item keeps its index, and a blank place reads as an empty one. -/

namespace Specification

/-- A specification is rejected if some place in it is misshapen, and only then. The rejection tells
exactly the misshapen places, each once. Otherwise every list is read in the order of the
specification. A section or a list that is null, empty or missing is read the same. -/
theorem configuration_by_shape (fields : Fields) :
    ((∃ rejection, configuration fields = .error rejection) ↔
        ∃ place, Misshapen fields place) ∧
      (∀ rejection, configuration fields = .error rejection →
        (rejection.errors.map FieldError.field).Nodup ∧
          ∀ text, text ∈ rejection.errors.map FieldError.field ↔
            ∃ place, Misshapen fields place ∧ place.text = text) ∧
      (∀ result, configuration fields = .ok result → InOrder fields result) ∧
      (∀ place, IsSection place → ∀ value? ∈ blanks (.obj []),
        configuration (edited fields place value?) = configuration (edited fields place none)) ∧
      ∀ place, IsList place → ∀ value? ∈ blanks (.arr []),
        configuration (edited fields place value?) = configuration (edited fields place none) := by
  refine ⟨exists_rejection_iff, fun _ => fields_of_rejection, fun _ => inOrder_of_ok, ?_, ?_⟩
  · intro place isSection value? isBlank
    have alike := alike_of_isSection isSection fields isBlank (List.mem_cons_self ..)
    rw [configuration, configuration, shapedConfiguration_of_alike alike]
  · intro place isList value? isBlank
    have alike := alike_of_isList isList fields isBlank (List.mem_cons_self ..)
    rw [configuration, configuration, shapedConfiguration_of_alike alike]

/-- A specification with faults at several depths, among sound items. -/
def faulty : Fields :=
  [("encryption", .str "arn:aws:kms:us-east-1:123456789012:key/x"),
    ("objectLock", .bool true),
    ("lifecycle", .obj [("rules", .arr [.obj [("id", .str "a")], .str "b",
      .obj [("id", .str "c"), ("expiration", .int 30)]])]),
    ("policy", .obj [("statements", .obj [("sid", .str "x")])])]

/-- A specification with two rules and nothing else. -/
def sound : Fields :=
  [("lifecycle", .obj [("rules", .arr [.obj [("id", .str "a")], .obj [("id", .str "b")]])])]

theorem configuration_faulty :
    (∃ rejection, configuration faulty = .error rejection ∧
      rejection.errors.map FieldError.field =
        ["encryption", "objectLock", "lifecycle.rules[1]", "lifecycle.rules[2].expiration",
          "policy.statements"] ∧
      ∀ text ∈ rejection.errors.map FieldError.field,
        ∃ place, Misshapen faulty place ∧ place.text = text) ∧
    (∃ result, configuration sound = .ok result ∧ result.lifecycleRules.length = 2 ∧
      InOrder sound result) ∧
    configuration (edited sound (.ofRoot "lifecycle") (some .null)) =
      configuration (edited sound (.ofRoot "lifecycle") none) ∧
    configuration (edited sound rulesPlace (some (.arr []))) =
      configuration (edited sound rulesPlace none) := by
  refine ⟨?_, ?_, ?_, ?_⟩
  · have misshapen : Misshapen faulty (.ofRoot "encryption") :=
      .ofSection (.top (by decide)) ⟨_, rfl, nofun, nofun⟩
    rcases configuration_by_shape faulty with ⟨rejected, fields, -⟩
    rcases rejected.mpr ⟨_, misshapen⟩ with ⟨rejection, isRejection⟩
    refine ⟨rejection, isRejection, ?_, fun text => ((fields rejection isRejection).2 text).mp⟩
    rw [← configuration_eq_error_iff.mp isRejection]
    rfl
  · have inOrder := (configuration_by_shape sound).2.2.1 _ rfl
    exact ⟨_, rfl, inOrder.lifecycleRules.length, inOrder⟩
  · exact (configuration_by_shape sound).2.2.2.1 _ (.top (by decide)) _ (by decide)
  · exact (configuration_by_shape sound).2.2.2.2 _ .rules _ (by decide)

end Specification

end BucketGuard
