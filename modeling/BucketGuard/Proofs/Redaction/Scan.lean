import BucketGuard.Redaction.Pattern

namespace BucketGuard.Finder

/-! Scanning a text for findings. What a scan does behind a finding, or behind characters that it
passes over, depends on the last of them only. Two finders whose findings have no character in
common together find what each of them finds. -/

/-! ## Steps of a scan -/

/-- The character before what follows a text. -/
def lastOf (before : Option Char) (text : List Char) : Option Char := text.getLast?.or before

@[simp] theorem lastOf_nil (before : Option Char) : lastOf before [] = before := rfl

@[simp] theorem lastOf_cons (before : Option Char) (character : Char) (text : List Char) :
    lastOf before (character :: text) = lastOf (some character) text := by
  rw [lastOf, lastOf, List.getLast?_cons]
  cases text.getLast? <;> rfl

theorem lastOf_append (before : Option Char) (first second : List Char) :
    lastOf before (first ++ second) = lastOf (lastOf before first) second := by
  rw [lastOf, List.getLast?_append, Option.or_assoc]
  rfl

/-- Every finding takes a character at least, and no more than there are. -/
def IsSound (find : Finder) : Prop :=
  ∀ before text finding, find before text = some finding →
    0 < finding.length ∧ finding.length ≤ text.length

variable {find : Finder} {before : Option Char}

theorem IsSound.length_drop_lt (isSound : find.IsSound) {text : List Char} {finding : Finding}
    (found : find before text = some finding) :
    (text.drop finding.length).length < text.length := by
  rcases isSound _ _ _ found with ⟨positive, enough⟩
  rw [List.length_drop]
  omega

/-- Where something is found there is a first character, and the rest of the finding lies in what
follows it. -/
theorem IsSound.exists_cons (isSound : find.IsSound) {text : List Char} {finding : Finding}
    (found : find before text = some finding) :
    ∃ character rest length, text = character :: rest ∧ finding.length = length + 1 ∧
      length ≤ rest.length := by
  rcases isSound _ _ _ found with ⟨positive, enough⟩
  rcases Nat.exists_eq_add_one.mpr positive with ⟨length, equal⟩
  rw [equal] at enough
  cases text with
  | nil => contradiction
  | cons character rest => exact ⟨character, rest, length, rfl, equal, Nat.le_of_succ_le_succ enough⟩

private theorem replaceFrom_skip {skipped : Nat} {text : List Char}
    (enough : skipped ≤ text.length) :
    find.replaceFrom before skipped text =
      find.replaceFrom (lastOf before (text.take skipped)) 0 (text.drop skipped) := by
  induction skipped generalizing before text with
  | zero => rfl
  | succ skipped induction =>
      cases text with
      | nil => contradiction
      | cons character rest =>
          rw [replaceFrom, List.take_succ_cons, List.drop_succ_cons, lastOf_cons]
          exact induction (Nat.le_of_succ_le_succ enough)

theorem replaceFrom_of_found (isSound : find.IsSound) {text : List Char} {finding : Finding}
    (found : find before text = some finding) :
    find.replaceFrom before 0 text =
      finding.replacement ++
        find.replaceFrom (lastOf before (text.take finding.length)) 0
          (text.drop finding.length) := by
  rcases isSound.exists_cons found with ⟨character, rest, length, rfl, equal, enough⟩
  simp only [replaceFrom, found, equal, Nat.add_sub_cancel, List.take_succ_cons,
    List.drop_succ_cons, lastOf_cons]
  rw [replaceFrom_skip enough]

theorem replaceFrom_of_none {character : Char} {rest : List Char}
    (none : find before (character :: rest) = none) :
    find.replaceFrom before 0 (character :: rest) =
      character :: find.replaceFrom (some character) 0 rest := by
  simp only [replaceFrom, none]

/-- Nothing is found that begins in the first of two parts of a text. -/
def Passes (find : Finder) : Option Char → (first second : List Char) → Prop
  | _, [], _ => True
  | before, character :: first, second =>
      find before (character :: (first ++ second)) = none ∧
        find.Passes (some character) first second

theorem Passes.replaceFrom_eq {first second : List Char} (passes : find.Passes before first second) :
    find.replaceFrom before 0 (first ++ second) =
      first ++ find.replaceFrom (lastOf before first) 0 second := by
  induction first generalizing before with
  | nil => rfl
  | cons character rest induction =>
      rw [List.cons_append, replaceFrom_of_none passes.1, induction passes.2, lastOf_cons]
      rfl

theorem Passes.replaceFrom_self {text : List Char} (passes : find.Passes before text []) :
    find.replaceFrom before 0 text = text := by
  have unchanged := passes.replaceFrom_eq
  rwa [replaceFrom, List.append_nil] at unchanged

theorem passes_append {first second rest : List Char} :
    find.Passes before (first ++ second) rest ↔
      find.Passes before first (second ++ rest) ∧
        find.Passes (lastOf before first) second rest := by
  induction first generalizing before with
  | nil => simp [Passes]
  | cons character first induction =>
      rw [List.cons_append, Passes, Passes, induction, lastOf_cons, List.append_assoc, and_assoc]

theorem Passes.eq_none {first second rest : List Char}
    (passes : find.Passes before (first ++ second) rest) (nonempty : second ≠ []) :
    find (lastOf before first) (second ++ rest) = none := by
  cases second with
  | nil => contradiction
  | cons character second => exact (passes_append.mp passes).2.1

/-- A text up to the first finding in it, if there is one. -/
theorem exists_passes (find : Finder) (before : Option Char) (text : List Char) :
    ∃ first second, text = first ++ second ∧ find.Passes before first second ∧
      (second = [] ∨ ∃ finding, find (lastOf before first) second = some finding) := by
  induction text generalizing before with
  | nil => exact ⟨[], [], rfl, trivial, .inl rfl⟩
  | cons character rest induction =>
      cases found : find before (character :: rest) with
      | some finding => exact ⟨[], character :: rest, rfl, trivial, .inr ⟨finding, found⟩⟩
      | none =>
          rcases induction (some character) with ⟨first, second, rfl, passes, ends⟩
          exact ⟨character :: first, second, rfl, ⟨found, passes⟩, by rwa [lastOf_cons]⟩

/-- A text is passed over up to a finding, and from behind the finding again, until nothing more is
found. -/
theorem scan_induction (isSound : find.IsSound) {motive : Option Char → List Char → Prop}
    (atEnd : ∀ before text, find.Passes before text [] → motive before text)
    (atFinding : ∀ before first taken rest finding,
      find.Passes before first (taken ++ rest) →
      find (lastOf before first) (taken ++ rest) = some finding →
      finding.length = taken.length →
      motive (lastOf before (first ++ taken)) rest → motive before (first ++ (taken ++ rest)))
    (before : Option Char) (text : List Char) : motive before text := by
  induction length : text.length using Nat.strongRecOn generalizing before text with
  | ind length induction =>
      subst length
      rcases find.exists_passes before text with ⟨first, second, rfl, passes, ends⟩
      rcases ends with rfl | ⟨finding, found⟩
      · rw [List.append_nil]
        exact atEnd before first passes
      · have later := induction (second.drop finding.length).length
          (Nat.lt_of_lt_of_le (isSound.length_drop_lt found) (List.suffix_append ..).length_le)
          (lastOf before (first ++ second.take finding.length)) _ rfl
        have size := (List.length_take_of_le (isSound _ _ _ found).2).symm
        rw [← List.take_append_drop finding.length second] at passes found ⊢
        exact atFinding before first _ _ finding passes found size later

theorem Passes.replaceFrom_of_found (isSound : find.IsSound) {first taken rest : List Char}
    {finding : Finding} (passes : find.Passes before first (taken ++ rest))
    (found : find (lastOf before first) (taken ++ rest) = some finding)
    (size : finding.length = taken.length) :
    find.replaceFrom before 0 (first ++ (taken ++ rest)) =
      first ++ finding.replacement ++ find.replaceFrom (lastOf before (first ++ taken)) 0 rest := by
  rw [passes.replaceFrom_eq, Finder.replaceFrom_of_found isSound found, size, List.take_left,
    List.drop_left, lastOf_append, List.append_assoc]

/-! ## Text that a scan leaves as it is -/

/-- What is found that begins in the first of two parts of a text stands there as it would be
written. -/
def Keeps (find : Finder) : Option Char → (first second : List Char) → Prop
  | _, [], _ => True
  | before, character :: first, second =>
      (∀ finding, find before (character :: (first ++ second)) = some finding →
        (character :: (first ++ second)).take finding.length = finding.replacement) ∧
      find.Keeps (some character) first second

theorem Passes.keeps {first second : List Char} (passes : find.Passes before first second) :
    find.Keeps before first second := by
  induction first generalizing before with
  | nil => trivial
  | cons character first induction =>
      refine ⟨fun finding found => ?_, induction passes.2⟩
      exact absurd (found.symm.trans passes.1) (Option.some_ne_none finding)

theorem keeps_append {first second rest : List Char} :
    find.Keeps before (first ++ second) rest ↔
      find.Keeps before first (second ++ rest) ∧ find.Keeps (lastOf before first) second rest := by
  induction first generalizing before with
  | nil => simp [Keeps]
  | cons character first induction =>
      rw [List.cons_append, Keeps, Keeps, induction, lastOf_cons, List.append_assoc, and_assoc]

theorem Keeps.take_eq {first second rest : List Char} {finding : Finding}
    (keeps : find.Keeps before (first ++ second) rest) (nonempty : second ≠ [])
    (found : find (lastOf before first) (second ++ rest) = some finding) :
    (second ++ rest).take finding.length = finding.replacement := by
  cases second with
  | nil => contradiction
  | cons character second => exact (keeps_append.mp keeps).2.1 finding found

theorem Keeps.replaceFrom_eq (isSound : find.IsSound) {text : List Char}
    (keeps : find.Keeps before text []) : find.replaceFrom before 0 text = text := by
  induction before, text using scan_induction isSound with
  | atEnd before text passes => exact passes.replaceFrom_self
  | atFinding before first taken rest finding passes found size induction =>
      have nonempty : taken ++ rest ≠ [] := by
        have positive := (isSound _ _ _ found).1
        rintro empty
        rw [size, (List.append_eq_nil_iff.mp empty).1] at positive
        contradiction
      have written := keeps.take_eq nonempty (by rwa [List.append_nil])
      rw [List.append_nil, size, List.take_left] at written
      rw [← List.append_assoc] at keeps
      rw [passes.replaceFrom_of_found isSound found size, ← written,
        induction (keeps_append.mp keeps).2, List.append_assoc]

/-! ## Which characters are found -/

/-- For each character, whether it belongs to a finding. -/
def coverFrom (find : Finder) (before : Option Char) (skipped : Nat) : List Char → List Bool
  | [] => []
  | character :: rest =>
      match skipped with
      | skipped + 1 => true :: coverFrom find (some character) skipped rest
      | 0 =>
          match find before (character :: rest) with
          | some finding => true :: coverFrom find (some character) (finding.length - 1) rest
          | none => false :: coverFrom find (some character) 0 rest

def cover (find : Finder) (text : List Char) : List Bool := find.coverFrom none 0 text

/-- No character is marked twice. -/
def Apart (left right : List Bool) : Prop :=
  ∀ place : Nat, ¬(left[place]? = some true ∧ right[place]? = some true)

private theorem coverFrom_skip {skipped : Nat} {text : List Char}
    (enough : skipped ≤ text.length) :
    find.coverFrom before skipped text =
      List.replicate skipped true ++
        find.coverFrom (lastOf before (text.take skipped)) 0 (text.drop skipped) := by
  induction skipped generalizing before text with
  | zero => rfl
  | succ skipped induction =>
      cases text with
      | nil => contradiction
      | cons character rest =>
          rw [coverFrom, List.take_succ_cons, List.drop_succ_cons, lastOf_cons,
            induction (Nat.le_of_succ_le_succ enough)]
          rfl

theorem coverFrom_of_found (isSound : find.IsSound) {text : List Char} {finding : Finding}
    (found : find before text = some finding) :
    find.coverFrom before 0 text =
      List.replicate finding.length true ++
        find.coverFrom (lastOf before (text.take finding.length)) 0
          (text.drop finding.length) := by
  rcases isSound.exists_cons found with ⟨character, rest, length, rfl, equal, enough⟩
  simp only [coverFrom, found, equal, Nat.add_sub_cancel, List.take_succ_cons,
    List.drop_succ_cons, lastOf_cons]
  rw [coverFrom_skip enough]
  rfl

theorem coverFrom_of_none {character : Char} {rest : List Char}
    (none : find before (character :: rest) = none) :
    find.coverFrom before 0 (character :: rest) =
      false :: find.coverFrom (some character) 0 rest := by
  simp only [coverFrom, none]

theorem Passes.coverFrom_eq {first second : List Char} (passes : find.Passes before first second) :
    find.coverFrom before 0 (first ++ second) =
      List.replicate first.length false ++ find.coverFrom (lastOf before first) 0 second := by
  induction first generalizing before with
  | nil => rfl
  | cons character rest induction =>
      rw [List.cons_append, coverFrom_of_none passes.1, induction passes.2, lastOf_cons]
      rfl

/-- Where the first characters belong to no finding, none begins there. -/
theorem passes_of_coverFrom {count : Nat} {text : List Char} (enough : count ≤ text.length)
    (free : ∀ place < count, (find.coverFrom before 0 text)[place]? ≠ some true) :
    find.Passes before (text.take count) (text.drop count) := by
  induction count generalizing before text with
  | zero => trivial
  | succ count induction =>
      cases text with
      | nil => contradiction
      | cons character rest =>
          have none : find before (character :: rest) = none := by
            cases found : find before (character :: rest) with
            | none => rfl
            | some finding =>
                have first := free 0 (Nat.succ_pos count)
                simp [coverFrom, found] at first
          rw [coverFrom_of_none none] at free
          rw [List.take_succ_cons, List.drop_succ_cons]
          refine ⟨by rwa [List.take_append_drop], ?_⟩
          exact induction (Nat.le_of_succ_le_succ enough)
            fun place bound => free (place + 1) (Nat.succ_lt_succ bound)

theorem apart_iff_zip {left right : List Bool} :
    Apart left right ↔ ∀ both ∈ left.zip right, both ≠ (true, true) := by
  constructor
  · rintro apart both member rfl
    rcases List.mem_iff_getElem?.mp member with ⟨place, found⟩
    exact apart place (List.getElem?_zip_eq_some.mp found)
  · intro none place both
    exact none _ (List.mem_of_getElem? (List.getElem?_zip_eq_some.mpr both)) rfl

instance (left right : List Bool) : Decidable (Apart left right) :=
  @decidable_of_iff _ _ apart_iff_zip.symm (List.decidableBAll _ _)

theorem Apart.symm {left right : List Bool} (apart : Apart left right) : Apart right left :=
  fun place both => apart place both.symm

/-- Behind the same number of marks the lists stay apart. -/
theorem Apart.of_append {leftFirst leftRest rightFirst rightRest : List Bool}
    (lengths : leftFirst.length = rightFirst.length)
    (apart : Apart (leftFirst ++ leftRest) (rightFirst ++ rightRest)) :
    Apart leftRest rightRest := by
  intro place both
  refine apart (leftFirst.length + place) ?_
  rwa [List.getElem?_append_right (Nat.le_add_right ..), Nat.add_sub_cancel_left, lengths,
    List.getElem?_append_right (Nat.le_add_right ..), Nat.add_sub_cancel_left]

/-! ## Two finders -/

/-- What the first finder finds, or else the second. -/
def orElse (left right : Finder) : Finder := fun before text =>
  (left before text).or (right before text)

theorem IsSound.orElse {left right : Finder} (ofLeft : left.IsSound) (ofRight : right.IsSound) :
    (left.orElse right).IsSound := by
  intro before text finding found
  rcases Option.or_eq_some_iff.mp found with found | ⟨-, found⟩
  · exact ofLeft _ _ _ found
  · exact ofRight _ _ _ found

/-- The findings behind a passage are apart if all of them are. -/
theorem Apart.of_passes {left right : Finder} {first second : List Char}
    (passesLeft : left.Passes before first second) (passesRight : right.Passes before first second)
    (apart : Apart (left.coverFrom before 0 (first ++ second))
      (right.coverFrom before 0 (first ++ second))) :
    Apart (left.coverFrom (lastOf before first) 0 second)
      (right.coverFrom (lastOf before first) 0 second) := by
  rw [passesLeft.coverFrom_eq, passesRight.coverFrom_eq] at apart
  exact apart.of_append rfl

/-- Where one finder finds something and the findings are apart, the other passes over it. -/
theorem passes_of_apart {left right : Finder} (isSound : left.IsSound) {text : List Char}
    {finding : Finding}
    (apart : Apart (left.coverFrom before 0 text) (right.coverFrom before 0 text))
    (found : left before text = some finding) :
    right.Passes before (text.take finding.length) (text.drop finding.length) ∧
      right.coverFrom before 0 text =
        List.replicate finding.length false ++
          right.coverFrom (lastOf before (text.take finding.length)) 0
            (text.drop finding.length) ∧
      Apart
        (left.coverFrom (lastOf before (text.take finding.length)) 0 (text.drop finding.length))
        (right.coverFrom (lastOf before (text.take finding.length)) 0
          (text.drop finding.length)) := by
  have enough := (isSound _ _ _ found).2
  have covered := coverFrom_of_found isSound found
  have free : ∀ place < finding.length, (right.coverFrom before 0 text)[place]? ≠ some true := by
    intro place bound marked
    refine apart place ⟨?_, marked⟩
    rw [covered, List.getElem?_append_left (by rwa [List.length_replicate]),
      List.getElem?_replicate, if_pos bound]
  have passes := passes_of_coverFrom enough free
  have passed := passes.coverFrom_eq
  rw [List.take_append_drop, List.length_take_of_le enough] at passed
  refine ⟨passes, passed, ?_⟩
  rw [covered, passed] at apart
  exact apart.of_append (by rw [List.length_replicate, List.length_replicate])

/-- Apart from each other, the two finders together find what either of them finds. -/
theorem coverFrom_orElse {left right : Finder} (ofLeft : left.IsSound) (ofRight : right.IsSound)
    {text : List Char}
    (apart : Apart (left.coverFrom before 0 text) (right.coverFrom before 0 text)) :
    (left.orElse right).coverFrom before 0 text =
      List.zipWith (· || ·) (left.coverFrom before 0 text) (right.coverFrom before 0 text) := by
  -- The scan goes on behind a finding, so the induction is on the length of what is left.
  induction length : text.length using Nat.strongRecOn generalizing before text with
  | ind length induction =>
      subst length
      cases text with
      | nil => rfl
      | cons character rest =>
          cases foundLeft : left before (character :: rest) with
          | some finding =>
              have both : left.orElse right before (character :: rest) = some finding := by
                rw [orElse, foundLeft, Option.some_or]
              rcases passes_of_apart ofLeft apart foundLeft with ⟨-, passed, later⟩
              rw [coverFrom_of_found (ofLeft.orElse ofRight) both,
                coverFrom_of_found ofLeft foundLeft, passed,
                List.zipWith_append (by simp),
                induction _ (ofLeft.length_drop_lt foundLeft) later rfl]
              simp
          | none =>
              cases foundRight : right before (character :: rest) with
              | some finding =>
                  have both : left.orElse right before (character :: rest) = some finding := by
                    rw [orElse, foundLeft, foundRight, Option.none_or]
                  rcases passes_of_apart ofRight apart.symm foundRight with ⟨-, passed, later⟩
                  rw [coverFrom_of_found (ofLeft.orElse ofRight) both,
                    coverFrom_of_found ofRight foundRight, passed,
                    List.zipWith_append (by simp),
                    induction _ (ofRight.length_drop_lt foundRight) later.symm rfl]
                  simp
              | none =>
                  have neither : left.orElse right before (character :: rest) = none := by
                    rw [orElse, foundLeft, foundRight, Option.none_or]
                  rw [coverFrom_of_none foundLeft, coverFrom_of_none foundRight] at apart ⊢
                  have later : Apart (left.coverFrom (some character) 0 rest)
                      (right.coverFrom (some character) 0 rest) :=
                    @Apart.of_append [false] _ [false] _ rfl apart
                  rw [coverFrom_of_none neither, List.zipWith_cons_cons,
                    induction _ (Nat.lt_succ_self _) later rfl]
                  rfl

/-- What is apart from two is apart from both together. -/
theorem Apart.zipWith {left right other : List Bool} (ofLeft : Apart left other)
    (ofRight : Apart right other) : Apart (List.zipWith (· || ·) left right) other := by
  intro place both
  rw [List.getElem?_zipWith] at both
  cases first : left[place]? with
  | none => simp [first] at both
  | some ofFirst =>
      cases second : right[place]? with
      | none => simp [first, second] at both
      | some ofSecond =>
          simp only [first, second, Option.some.injEq, Bool.or_eq_true] at both
          rcases both with ⟨rfl | rfl, marked⟩
          · exact ofLeft place ⟨first, marked⟩
          · exact ofRight place ⟨second, marked⟩

theorem Passes.of_orElse {left right : Finder} {first second : List Char}
    (passes : (left.orElse right).Passes before first second) :
    left.Passes before first second ∧ right.Passes before first second := by
  induction first generalizing before with
  | nil => exact ⟨trivial, trivial⟩
  | cons character rest induction =>
      rcases Option.or_eq_none_iff.mp passes.1 with ⟨ofLeft, ofRight⟩
      rcases induction passes.2 with ⟨restLeft, restRight⟩
      exact ⟨⟨ofLeft, restLeft⟩, ofRight, restRight⟩

end BucketGuard.Finder
