import BucketGuard.CommandLine.Files
import BucketGuard.Proofs.Outcome

namespace BucketGuard.CommandLine

/-! Writing a file. The directory of the file is there already, so a file that is written makes no
directory, and every name leads where it led before. -/

/-- The spot that one part of a name stands for, seen from another spot. -/
def Spot.beside (spot : Spot) (part : String) : Except FileFault Spot :=
  if part = "." then .ok spot
  else if part = ".." then .ok spot.parent
  else if partLimit < part.utf8ByteSize then .error .nameTooLong
  else .ok (spot.child part)

namespace Files

/-! ## Names -/

theorem walk_cons (files : Files) (spot : Spot) (part : String) (rest : List String) :
    files.walk spot (part :: rest) =
      files.requireDirectory spot >>= fun _ => spot.beside part >>= (files.walk · rest) := by
  rw [walk, Spot.beside]
  congr
  funext _
  split
  · rfl
  · split
    · rfl
    · split <;> rfl

/-- A name is followed through its first parts, and from there through the others. -/
theorem walk_append (files : Files) (spot : Spot) (parts others : List String) :
    files.walk spot (parts ++ others) = files.walk spot parts >>= (files.walk · others) := by
  induction parts generalizing spot with
  | nil => rfl
  | cons part rest induction =>
      simp only [List.cons_append, walk_cons, bind_assoc, induction]

theorem requireDirectory_eq_ok_iff {files : Files} {spot : Spot} :
    files.requireDirectory spot = .ok () ↔ files.hasDirectory spot = true := by
  unfold requireDirectory
  split
  next there => simp [there]
  next missing => split <;> simp [missing]

/-- Where a name leads depends on the directories alone. -/
theorem walk_of_directories {files after : Files}
    (directories : ∀ spot, after.hasDirectory spot = files.hasDirectory spot) {start goal : Spot}
    {parts : List String} (leads : files.walk start parts = .ok goal) :
    after.walk start parts = .ok goal := by
  induction parts generalizing start with
  | nil => exact leads
  | cons part rest induction =>
      rw [walk_cons, Except.bind_eq_ok_iff] at leads ⊢
      rcases leads with ⟨_, there, leads⟩
      rw [requireDirectory_eq_ok_iff, ← directories, ← requireDirectory_eq_ok_iff] at there
      rcases Except.bind_eq_ok_iff.mp leads with ⟨next, isNext, leads⟩
      exact ⟨_, there, Except.bind_eq_ok_iff.mpr ⟨next, isNext, induction leads⟩⟩

/-! ## Texts -/

theorem text?_store (files : Files) (place other : Place) (text : String) :
    (files.store place text).text? other =
      if place = other then some text else files.text? other := by
  induction files with
  | nil => by_cases same : place = other <;> simp [store, text?, same]
  | cons file rest induction =>
      rcases file with ⟨first, old⟩
      rw [store]
      by_cases found : first = place
      · subst found
        by_cases same : first = other <;> simp [text?, same]
      · rw [if_neg found]
        by_cases isFirst : first = other
        · have different : place ≠ other := fun same => found (isFirst.trans same.symm)
          simp [text?, isFirst, different]
        · simpa [text?, isFirst] using induction

theorem mem_places_store {files : Files} {place other : Place} {text : String} :
    other ∈ (files.store place text).map Prod.fst ↔
      other = place ∨ other ∈ files.map Prod.fst := by
  induction files with
  | nil => simp [store]
  | cons file rest induction =>
      rw [store]
      split
      next found => simp [found]
      next notFound =>
        rw [List.map_cons, List.mem_cons, induction, List.map_cons, List.mem_cons]
        exact or_left_comm

theorem hasDirectory_working_iff {files : Files} {place : Place} :
    files.hasDirectory { base := .working, place } = true ↔
      place = [] ∨ ∃ other ∈ files.map Prod.fst, place <+: other ∧ place.length < other.length := by
  cases place with
  | nil => simp [hasDirectory]
  | cons first rest => simp [hasDirectory]

/-- A file in a directory that is there makes no other directory. -/
theorem hasDirectory_store {files : Files} {directory : Place} {last text : String}
    (there : files.hasDirectory { base := .working, place := directory } = true) (spot : Spot) :
    Files.hasDirectory (files.store (directory ++ [last]) text) spot = files.hasDirectory spot := by
  rcases spot with ⟨base, place⟩
  cases base with
  | above => cases place <;> rfl
  | top => rcases place with _ | ⟨first, _ | ⟨second, rest⟩⟩ <;> rfl
  | working =>
      rw [Bool.eq_iff_iff, hasDirectory_working_iff, hasDirectory_working_iff]
      by_cases isTop : place = []
      · exact iff_of_true (.inl isTop) (.inl isTop)
      rw [or_iff_right isTop, or_iff_right isTop]
      constructor
      · rintro ⟨other, member, above, shorter⟩
        rcases mem_places_store.mp member with rfl | member
        · have above : place <+: directory := by
            rcases List.prefix_concat_iff.mp above with same | above
            · exact absurd shorter (same ▸ Nat.lt_irrefl _)
            · exact above
          rcases hasDirectory_working_iff.mp there with rfl | ⟨other, member, further, longer⟩
          · exact absurd (List.prefix_nil.mp above) isTop
          · exact ⟨other, member, above.trans further, Nat.lt_of_le_of_lt above.length_le longer⟩
        · exact ⟨other, member, above, shorter⟩
      · rintro ⟨other, member, above⟩
        exact ⟨other, mem_places_store.mpr (.inr member), above⟩

/-! ## Written files -/

/-- The text stands at the spot, if the spot is in the working directory, and nothing else has
changed. -/
structure HasStored (spot : Spot) (text : String) (files after : Files) : Prop where
  directories : ∀ other, after.hasDirectory other = files.hasDirectory other
  others : ∀ other ≠ spot, after.textAt? other = files.textAt? other
  text : spot.base = .working → after.textAt? spot = some text

theorem hasStored_storeAt {files : Files} {directory : Spot} (last text : String)
    (there : files.hasDirectory directory = true) :
    HasStored (directory.child last) text files (files.storeAt (directory.child last) text) := by
  rcases directory with ⟨base, place⟩
  cases base with
  | above => exact ⟨fun _ => rfl, fun _ _ => rfl, nofun⟩
  | top => exact ⟨fun _ => rfl, fun _ _ => rfl, nofun⟩
  | working =>
      refine ⟨hasDirectory_store there, fun other different => ?_, fun _ => ?_⟩
      · rcases other with ⟨base, otherPlace⟩
        cases base with
        | above => rfl
        | top => rfl
        | working =>
            have apart : place ++ [last] ≠ otherPlace := fun same => different (same ▸ rfl)
            exact (text?_store files _ _ text).trans (if_neg apart)
      · exact (text?_store files _ _ text).trans (if_pos rfl)

/-- A part that is neither one dot nor two leads one step down. -/
theorem eq_child_of_walk {files : Files} {directory spot : Spot} {last : String}
    (notSame : last ≠ ".") (notBack : last ≠ "..")
    (leads : files.walk directory [last] = .ok spot) : spot = directory.child last := by
  rw [walk_cons, Except.bind_eq_ok_iff] at leads
  rcases leads with ⟨_, -, leads⟩
  rcases Except.bind_eq_ok_iff.mp leads with ⟨next, isNext, leads⟩
  rw [Spot.beside, if_neg notSame, if_neg notBack] at isNext
  split at isNext
  · contradiction
  · exact ((Except.ok.inj isNext).trans (Except.ok.inj leads)).symm

theorem read_eq_ok {files : Files} {name text : String} {spot : Spot}
    (isName : checkName name = .ok ())
    (leads : files.walk (nameStart name) (nameParts name) = .ok spot)
    (asksFile : asksDirectory name = false) (isFile : files.hasDirectory spot = false)
    (found : files.textAt? spot = some text) : files.read name = .ok text := by
  simp [read, isName, leads, asksFile, isFile, found, bind, Except.bind]

/-- A file that has been written is found under its name, and nothing else has changed. -/
theorem hasStored_of_write {files after : Files} {name text : String}
    (written : files.write name text = .ok after) :
    ∃ spot, files.walk (nameStart name) (nameParts name) = .ok spot ∧
      HasStored spot text files after ∧ (spot.base = .working → after.read name = .ok text) := by
  rw [write, Except.bind_eq_ok_iff] at written
  rcases written with ⟨_, isName, written⟩
  cases isLast : (nameParts name).getLast? with
  | none =>
      rw [isLast] at written
      contradiction
  | some last =>
      rw [isLast] at written
      dsimp only at written
      simp only [Except.bind_eq_ok_iff] at written
      rcases written with ⟨directory, toDirectory, _, there, written⟩
      split at written
      · contradiction
      · rename_i asksFile
        rcases Except.bind_eq_ok_iff.mp written with ⟨spot, toSpot, written⟩
        split at written
        · contradiction
        · rename_i isFile
          simp only [Bool.or_eq_true, decide_eq_true_eq, not_or, Bool.not_eq_true]
            at asksFile isFile
          rcases asksFile with ⟨⟨asksFile, notSame⟩, notBack⟩
          have leads : files.walk (nameStart name) (nameParts name) = .ok spot := by
            rcases List.getLast?_eq_some_iff.mp isLast with ⟨front, parts⟩
            rw [parts, List.dropLast_concat] at toDirectory
            rw [parts, walk_append, toDirectory]
            exact toSpot
          have stored := hasStored_storeAt last text (requireDirectory_eq_ok_iff.mp there)
          rw [← eq_child_of_walk notSame notBack toSpot, Except.ok.inj written] at stored
          exact ⟨spot, leads, stored, fun inside =>
            read_eq_ok isName (walk_of_directories stored.directories leads) asksFile
              ((stored.directories spot).trans isFile) (stored.text inside)⟩

end Files

end BucketGuard.CommandLine
