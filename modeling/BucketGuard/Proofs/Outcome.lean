import BucketGuard.Compilation

namespace BucketGuard

/-! Outcomes step by step: what a result of work in two steps says about each of them, and which
parts of a trail the steps leave. -/

namespace Trail

@[simp] theorem requests_append (first second : Trail) :
    (first ++ second).requests = first.requests ++ second.requests := rfl

@[simp] theorem requests_ofLine (severity : Severity) (text : String) :
    (Trail.ofLine severity text).requests = [] := rfl

@[simp] theorem requests_ofCounts (counts : List Count) : (Trail.ofCounts counts).requests = [] :=
  rfl

@[simp] theorem requests_ofRequest (request : Request) :
    (Trail.ofRequest request).requests = [request] := rfl

end Trail

namespace Except

variable {ε ε' α β γ : Type}

@[simp] theorem mapError_error (change : ε → ε') (error : ε) :
    (.error error : Except ε α).mapError change = .error (change error) := rfl

@[simp] theorem mapError_ok (change : ε → ε') (value : α) :
    (.ok value : Except ε α).mapError change = .ok value := rfl

theorem mapError_eq_ok_iff {change : ε → ε'} {result : Except ε α} {value : α} :
    result.mapError change = .ok value ↔ result = .ok value := by
  cases result <;> simp

theorem map_eq_ok_iff {change : α → β} {result : Except ε α} {value : β} :
    result.map change = .ok value ↔ ∃ inner, result = .ok inner ∧ change inner = value := by
  cases result <;> simp [Except.map]

/-- What is made of two results is the same if they are one error, or if the same is made of them. -/
theorem map_eq_map_iff {change : α → β} {left right : Except ε α} :
    left.map change = right.map change ↔
      (∃ error, left = .error error ∧ right = .error error) ∨
        ∃ value other, left = .ok value ∧ right = .ok other ∧ change value = change other := by
  cases left <;> cases right <;> simp [Except.map, eq_comm]

/-- A result of two steps is a result of the first one that the second one goes on from. -/
theorem bind_eq_ok_iff {first : Except ε α} {next : α → Except ε β} {value : β} :
    first >>= next = .ok value ↔ ∃ middle, first = .ok middle ∧ next middle = .ok value := by
  cases first with
  | error error => simp [bind, Except.bind]
  | ok middle => simp [bind, Except.bind]

section Both

variable {first : Except ε α} {second : Except ε β} {both : α → β → γ}

/-- Two results come together if there is each of them. -/
theorem both_eq_ok_iff {value : γ} :
    (first >>= fun left => second >>= fun right => pure (both left right)) = .ok value ↔
      ∃ left right, first = .ok left ∧ second = .ok right ∧ value = both left right := by
  rw [bind_eq_ok_iff]
  constructor
  · rintro ⟨left, isLeft, worked⟩
    rcases bind_eq_ok_iff.mp worked with ⟨right, isRight, isBoth⟩
    exact ⟨left, right, isLeft, isRight, (Except.ok.inj isBoth).symm⟩
  · rintro ⟨left, right, isLeft, isRight, rfl⟩
    exact ⟨left, isLeft, bind_eq_ok_iff.mpr ⟨right, isRight, rfl⟩⟩

theorem exists_both_iff :
    (∃ value, (first >>= fun left => second >>= fun right => pure (both left right)) =
        .ok value) ↔
      (∃ left, first = .ok left) ∧ ∃ right, second = .ok right := by
  constructor
  · rintro ⟨value, worked⟩
    rcases both_eq_ok_iff.mp worked with ⟨left, right, isLeft, isRight, -⟩
    exact ⟨⟨left, isLeft⟩, right, isRight⟩
  · rintro ⟨⟨left, isLeft⟩, right, isRight⟩
    exact ⟨_, both_eq_ok_iff.mpr ⟨left, right, isLeft, isRight, rfl⟩⟩

end Both

section Lists

variable {each : α → Except ε β}

theorem mapM_cons_eq_ok_iff {item : α} {rest : List α} {results : List β} :
    (item :: rest).mapM each = .ok results ↔
      ∃ first others, each item = .ok first ∧ rest.mapM each = .ok others ∧
        results = first :: others := by
  rw [List.mapM_cons]
  exact both_eq_ok_iff

theorem mapM_append_eq_ok_iff {earlier later : List α} {results : List β} :
    (earlier ++ later).mapM each = .ok results ↔
      ∃ front back, earlier.mapM each = .ok front ∧ later.mapM each = .ok back ∧
        results = front ++ back := by
  rw [List.mapM_append]
  exact both_eq_ok_iff

/-- A list is worked through if each of its items is. -/
theorem exists_mapM_iff {items : List α} :
    (∃ results, items.mapM each = .ok results) ↔
      ∀ item ∈ items, ∃ result, each item = .ok result := by
  induction items with
  | nil => simp [pure, Except.pure]
  | cons item rest induction =>
      rw [List.forall_mem_cons, ← induction, List.mapM_cons]
      exact exists_both_iff

theorem mapM_eq_map {change : α → β} {items : List α}
    (worked : ∀ item ∈ items, each item = .ok (change item)) :
    items.mapM each = .ok (items.map change) := by
  induction items with
  | nil => rfl
  | cons item rest induction =>
      rcases List.forall_mem_cons.mp worked with ⟨first, others⟩
      exact mapM_cons_eq_ok_iff.mpr ⟨_, _, first, induction others, rfl⟩

/-- What each result tells of its item, the results tell of the list. -/
theorem map_eq_of_mapM {before : α → γ} {after : β → γ}
    (tells : ∀ item result, each item = .ok result → before item = after result)
    {items : List α} {results : List β} (worked : items.mapM each = .ok results) :
    items.map before = results.map after := by
  induction items generalizing results with
  | nil => cases worked; rfl
  | cons item rest induction =>
      rcases mapM_cons_eq_ok_iff.mp worked with ⟨first, others, isFirst, areOthers, rfl⟩
      rw [List.map_cons, List.map_cons, tells item first isFirst, induction areOthers]

/-- Picking items before they are worked through and picking results after come to the same. -/
theorem mapM_filter {before : α → Bool} {after : β → Bool}
    (agree : ∀ item result, each item = .ok result → before item = after result)
    {items : List α} {results : List β} (worked : items.mapM each = .ok results) :
    (items.filter before).mapM each = .ok (results.filter after) := by
  induction items generalizing results with
  | nil => cases worked; rfl
  | cons item rest induction =>
      rcases mapM_cons_eq_ok_iff.mp worked with ⟨first, others, isFirst, areOthers, rfl⟩
      have later := induction areOthers
      rw [List.filter_cons, List.filter_cons, agree item first isFirst]
      split
      · exact mapM_cons_eq_ok_iff.mpr ⟨first, _, isFirst, later, rfl⟩
      · exact later

end Lists

end Except

namespace Outcome

variable {α β : Type}

theorem bind_of_ok {first : Outcome α} {value : α} (next : α → Outcome β)
    (ok : first.result = .ok value) :
    first >>= next =
      { result := (next value).result, trail := first.trail ++ (next value).trail } := by
  simp only [bind, ok]

theorem bind_of_error {first : Outcome α} {failure : Failure} (next : α → Outcome β)
    (failed : first.result = .error failure) :
    first >>= next = { result := .error failure, trail := first.trail } := by
  simp only [bind, failed]

/-- The result of two steps, without their trails. -/
theorem bind_result (first : Outcome α) (next : α → Outcome β) :
    (first >>= next).result = first.result >>= fun value => (next value).result := by
  cases result : first.result with
  | error failure => rw [bind_of_error next result]; rfl
  | ok value => rw [bind_of_ok next result]; rfl

@[simp] theorem pure_result (value : α) : (pure value : Outcome α).result = .ok value := rfl

@[simp] theorem leave_result (trail : Trail) : (Outcome.leave trail).result = .ok () := rfl

@[simp] theorem ofExcept_result (result : Except Failure α) :
    (Outcome.ofExcept result).result = result := rfl

@[simp] theorem asSpan_result (traced : Bool) (name : String) (attributes : List (String × Json))
    (outcome : Outcome α) :
    (outcome.asSpan traced name attributes).result = outcome.result := rfl

@[simp] theorem asSpan_requests (traced : Bool) (name : String)
    (attributes : List (String × Json)) (outcome : Outcome α) :
    (outcome.asSpan traced name attributes).trail.requests = outcome.trail.requests := rfl

/-- What passes to trails put together holds of the trail of two steps if it holds of each step's. The
second step comes only behind a result of the first. -/
theorem bind_trail (holds : Trail → Prop)
    (append : ∀ first second, holds first → holds second → holds (first ++ second))
    {first : Outcome α} {next : α → Outcome β} (ofFirst : holds first.trail)
    (ofNext : ∀ value, first.result = .ok value → holds (next value).trail) :
    holds (first >>= next).trail := by
  cases result : first.result with
  | error failure =>
      rw [bind_of_error next result]
      exact ofFirst
  | ok value =>
      rw [bind_of_ok next result]
      exact append _ _ ofFirst (ofNext value result)

/-- Work whose steps send no requests sends none. -/
theorem bind_requests_eq_nil {first : Outcome α} {next : α → Outcome β}
    (firstSilent : first.trail.requests = [])
    (nextSilent : ∀ value, (next value).trail.requests = []) :
    (first >>= next).trail.requests = [] :=
  bind_trail (·.requests = []) (fun _ _ first second => List.append_eq_nil_iff.mpr ⟨first, second⟩)
    firstSilent fun value _ => nextSilent value

/-- Every line that the work logs is of one sort. -/
def Tells (holds : LogLine → Prop) (outcome : Outcome α) : Prop :=
  ∀ line ∈ outcome.trail.lines, holds line

namespace Tells

variable {holds : LogLine → Prop}

theorem silent {outcome : Outcome α} (silent : outcome.trail.lines = []) :
    outcome.Tells holds := by
  intro line member
  rw [silent] at member
  contradiction

theorem ofLine {severity : Severity} {text : String} (isOfSort : holds { severity, text }) :
    (Outcome.leave (.ofLine severity text)).Tells holds :=
  List.forall_mem_singleton.mpr isOfSort

/-- Of two steps, the second tells something only of a result of the first. -/
theorem bind {first : Outcome α} {next : α → Outcome β} (ofFirst : first.Tells holds)
    (ofNext : ∀ value, first.result = .ok value → (next value).Tells holds) :
    (first >>= next).Tells holds :=
  bind_trail (fun trail => ∀ line ∈ trail.lines, holds line)
    (fun _ _ first second => List.forall_mem_append.mpr ⟨first, second⟩) ofFirst ofNext

end Tells

end Outcome

end BucketGuard
