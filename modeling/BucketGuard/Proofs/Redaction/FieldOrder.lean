import BucketGuard.Proofs.Redaction.Fields

namespace BucketGuard.Redaction

/-! When the order of the fields does not matter. Each field is redacted in a pass of its own over
what the passes before it have left. As long as no two fields lay claim to the same character, the
passes together find what a single pass for all the fields finds. -/

variable {field : String} {before : Option Char} {text : List Char} {finding : Finding}

/-! ## Several fields in one pass -/

/-- The first of some fields that is found. -/
def findAny (fields : List String) : Finder := fun before text =>
  fields.findSome? fun field => findField field before text

theorem findAny_append (fields : List String) (field : String) :
    findAny (fields ++ [field]) = (findAny fields).orElse (findField field) := by
  funext before text
  simp [findAny, Finder.orElse, List.findSome?_append]

theorem exists_of_findAny {fields : List String}
    (found : findAny fields before text = some finding) :
    ∃ field ∈ fields, findField field before text = some finding :=
  List.exists_of_findSome?_eq_some found

variable {fields : List String}

theorem findAny_eq_some_iff (areNames : ∀ field ∈ fields, IsName field) :
    findAny fields before text = some finding ↔
      ∃ field ∈ fields, findField field before text = some finding := by
  refine ⟨exists_of_findAny, ?_⟩
  rintro ⟨field, member, found⟩
  cases all : findAny fields before text with
  | none => exact absurd (List.findSome?_eq_none_iff.mp all field member) (by simp [found])
  | some other =>
      rcases exists_of_findAny all with ⟨same, sameMember, sameFound⟩
      cases eq_of_found (areNames _ member) (areNames _ sameMember) found sameFound
      rw [← sameFound, found]

/-- The order of the fields does not matter to the one pass. -/
theorem findAny_eq_of_perm {other : List String} (areNames : ∀ field ∈ fields, IsName field)
    (perm : fields.Perm other) : findAny fields = findAny other := by
  funext before text
  apply Option.ext
  intro finding
  rw [findAny_eq_some_iff areNames,
    findAny_eq_some_iff fun field member => areNames field (perm.mem_iff.mpr member)]
  simp only [perm.mem_iff]

theorem isSound_findAny (areNames : ∀ field ∈ fields, IsName field) :
    (findAny fields).IsSound := by
  intro before text finding found
  rcases exists_of_findAny found with ⟨field, member, found⟩
  exact (areNames field member).isSound _ _ _ found

theorem atNames_findAny (areNames : ∀ field ∈ fields, IsName field) : AtNames (findAny fields) := by
  intro before text finding found
  rcases exists_of_findAny found with ⟨field, member, found⟩
  exact (areNames field member).atNames _ _ _ found

/-- A finding stays what it is when other fields are redacted behind it. -/
private theorem IsName.found_of_replaceFrom (isName : IsName field)
    (areNames : ∀ field ∈ fields, IsName field)
    (found : findField field before text = some finding) :
    findField field before (text.take finding.length ++
      (findAny fields).replaceFrom (Finder.lastOf before (text.take finding.length)) 0
        (text.drop finding.length)) = some finding := by
  rcases isName.isSound _ _ _ found with ⟨positive, enough⟩
  rcases (findAny fields).exists_passes (Finder.lastOf before (text.take finding.length))
    (text.drop finding.length) with ⟨first, second, cut, passes, ends⟩
  have whole : text.take finding.length ++ first ++ second = text := by
    rw [List.append_assoc, ← cut, List.take_append_drop]
  rw [cut, passes.replaceFrom_eq, ← List.append_assoc]
  rcases ends with rfl | ⟨other, otherFound⟩
  · rwa [Finder.replaceFrom, whole]
  · rcases exists_of_findAny otherFound with ⟨name, member, nameFound⟩
    rcases (areNames name member).begins_of_found nameFound with
      ⟨starts, begins, replacementBegins, -⟩
    rw [Finder.replaceFrom_of_found (isSound_findAny areNames) otherFound]
    have nonempty : text.take finding.length ++ first ≠ [] := by
      refine List.append_ne_nil_of_left_ne_nil (List.length_pos_iff.mp ?_) _
      rwa [List.length_take_of_le enough]
    rcases isName.found_of_beginsName nonempty (by rwa [Finder.lastOf_append]) begins
      (replacementBegins.append _) with equal | ⟨⟨longer, longerFound, beyond⟩, -⟩
    · rw [← equal, whole, found]
    · rw [whole, found] at longerFound
      cases longerFound
      rw [List.length_append, List.length_take_of_le enough] at beyond
      omega

/-- A field redacted in what the fields before it have left, provided that none of their findings
shares a character with one of its own. -/
theorem IsName.replaceFrom_findAny (isName : IsName field)
    (areNames : ∀ field ∈ fields, IsName field) (fresh : field ∉ fields)
    (apart : Finder.Apart ((findAny fields).coverFrom before 0 text)
      ((findField field).coverFrom before 0 text)) :
    (findField field).replaceFrom before 0 ((findAny fields).replaceFrom before 0 text) =
      ((findAny fields).orElse (findField field)).replaceFrom before 0 text := by
  -- The text up to the first finding stays as it is, and the induction is on what is left behind it.
  induction length : text.length using Nat.strongRecOn generalizing before text with
  | ind length induction =>
      subst length
      have sound := isSound_findAny areNames
      rcases ((findAny fields).orElse (findField field)).exists_passes before text with
        ⟨first, second, rfl, passes, ends⟩
      rcases passes.of_orElse with ⟨passesAny, passesField⟩
      rw [passes.replaceFrom_eq, passesAny.replaceFrom_eq]
      rcases ends with rfl | ⟨finding, found⟩
      · rw [Finder.replaceFrom, passesField.replaceFrom_eq]
        rfl
      · have apart := apart.of_passes passesAny passesField
        have shorter : (second.drop finding.length).length < (first ++ second).length := by
          have := (sound.orElse isName.isSound).length_drop_lt found
          rw [List.length_append]
          omega
        rw [Finder.replaceFrom_of_found (sound.orElse isName.isSound) found]
        rcases Option.or_eq_some_iff.mp found with found | ⟨-, found⟩
        · -- Another field is found: this one is not in what is written for it.
          rcases exists_of_findAny found with ⟨name, member, nameFound⟩
          rcases (areNames name member).begins_of_found nameFound with
            ⟨starts, begins, replacementBegins, quiet⟩
          have passesWritten := fun rest => isName.passes_of_beginsName starts begins
            (replacementBegins.append rest) passesField
          have different : field ≠ name := fun equal => fresh (equal ▸ member)
          have later := (Finder.passes_of_apart sound apart found).2.2
          rw [Finder.replaceFrom_of_found sound found, (passesWritten _).replaceFrom_eq,
            replacement_of_found nameFound,
            (isName.passes_replacement (areNames name member) different _ _).replaceFrom_eq,
            (isName.atNames.replaceFrom_of_isQuiet
              ((atNames_findAny areNames).replaceFrom_of_isQuiet quiet _ none).2 _ _).1,
            induction _ shorter later rfl]
        · -- This field is found: the others are passed over up to the end of its value.
          rcases isName.begins_of_found found with ⟨starts, begins, -, -⟩
          rcases Finder.passes_of_apart isName.isSound apart.symm found with ⟨passesOthers, -, later⟩
          have same := isName.found_of_replaceFrom areNames found
          have others := passesOthers.replaceFrom_eq
          rw [List.take_append_drop] at others
          have passesField := isName.passes_of_beginsName starts begins
            (isName.begins_of_found same).2.1 passesField
          have enough := (isName.isSound _ _ _ found).2
          rw [others, passesField.replaceFrom_eq, Finder.replaceFrom_of_found isName.isSound same,
            List.take_left' (List.length_take_of_le enough),
            List.drop_left' (List.length_take_of_le enough), induction _ shorter later.symm rfl]

/-! ## The order of the fields -/

/-- No two of some fields lay claim to the same character of a text. -/
def Disjoint (fields : List String) (text : List Char) : Prop :=
  fields.Pairwise fun field other =>
    Finder.Apart ((findField field).cover text) ((findField other).cover text)

instance (fields : List String) (text : List Char) : Decidable (Disjoint fields text) :=
  inferInstanceAs (Decidable (List.Pairwise _ _))

private theorem foldl_eq_findAny (done : List String) (text : List Char)
    (areNames : ∀ field ∈ done ++ fields, IsName field) (nodup : (done ++ fields).Nodup)
    (apart : ∀ field ∈ fields,
      Finder.Apart ((findAny done).cover text) ((findField field).cover text))
    (disjoint : Disjoint fields text) :
    fields.foldl (fun text field => (findField field).replaceIn text)
        ((findAny done).replaceIn text) =
      (findAny (done ++ fields)).replaceIn text := by
  induction fields generalizing done with
  | nil => rw [List.append_nil, List.foldl_nil]
  | cons field fields induction =>
      have cut : done ++ field :: fields = done ++ [field] ++ fields := by simp
      have doneNames : ∀ field ∈ done, IsName field := fun _ member =>
        areNames _ (List.mem_append_left _ member)
      have isName : IsName field := areNames _ (List.mem_append_right _ (.head _))
      have fresh : field ∉ done := fun member =>
        (List.nodup_append.mp nodup).2.2 _ member _ (.head _) rfl
      have ofField := apart field (.head _)
      rcases List.pairwise_cons.mp disjoint with ⟨ofOthers, others⟩
      have step : (findField field).replaceIn ((findAny done).replaceIn text) =
          (findAny (done ++ [field])).replaceIn text := by
        rw [findAny_append]
        exact isName.replaceFrom_findAny doneNames fresh ofField
      rw [List.foldl_cons, step, cut]
      refine induction _ (cut ▸ areNames) (cut ▸ nodup) (fun other member => ?_) others
      rw [findAny_append, Finder.cover,
        Finder.coverFrom_orElse (isSound_findAny doneNames) isName.isSound ofField]
      exact (apart other (.tail _ member)).zipWith (ofOthers other member)

private theorem passes_findAny_nil (before : Option Char) (text rest : List Char) :
    (findAny []).Passes before text rest := by
  induction text generalizing before with
  | nil => trivial
  | cons character text induction => exact ⟨rfl, induction _⟩

/-- One pass for each field finds what one pass for all of them finds. -/
theorem foldl_eq_replaceIn_findAny (text : List Char) (areNames : ∀ field ∈ fields, IsName field)
    (nodup : fields.Nodup) (disjoint : Disjoint fields text) :
    fields.foldl (fun text field => (findField field).replaceIn text) text =
      (findAny fields).replaceIn text := by
  have passes := passes_findAny_nil none text []
  have unchanged : (findAny []).replaceIn text = text := by
    have := passes.replaceFrom_eq
    rwa [List.append_nil, Finder.replaceFrom, List.append_nil] at this
  have free : (findAny []).cover text = List.replicate text.length false := by
    have := passes.coverFrom_eq
    rwa [List.append_nil, Finder.coverFrom, List.append_nil] at this
  have apart : ∀ field ∈ fields,
      Finder.Apart ((findAny []).cover text) ((findField field).cover text) := by
    intro field _ place both
    rw [free, List.getElem?_replicate] at both
    split at both <;> simp at both
  simpa [unchanged] using foldl_eq_findAny [] text areNames nodup apart disjoint

theorem nodup_sensitiveFields : sensitiveFields.Nodup := by
  decide

/-- The message in which only the patterns have been redacted. -/
def withoutPatterns (message : List Char) : List Char :=
  patterns.foldl (fun text pattern => (findPattern pattern).replaceIn text) message

end BucketGuard.Redaction
