import BucketGuard.CommandLine.Switches
import BucketGuard.Proofs.Outcome

namespace BucketGuard.CommandLine

/-! Sorted arguments. A switch that no letter is short for and that takes no value is given only by
an argument that is its name, and sorting makes up no words. -/

/-! ## Names that are not given -/

/-- Neither what the cluster gives nor what it waits for has the name. -/
def Cluster.Lacks (name : String) (cluster : Cluster) : Prop :=
  (∀ given ∈ cluster.given, given.name ≠ name) ∧ ∀ awaited ∈ cluster.pending, awaited.1 ≠ name

/-- Neither a switch that is given nor a word has the name. -/
structure Arguments.Lacks (name : String) (arguments : Arguments) : Prop where
  switches : ∀ given ∈ arguments.switches, given.name ≠ name
  words : name ∉ arguments.words

namespace Arguments.Lacks

variable {name : String} {arguments : Arguments}

theorem withSwitches (lacks : arguments.Lacks name) {given : List Given}
    (others : ∀ switch ∈ given, switch.name ≠ name) : (arguments.withSwitches given).Lacks name :=
  ⟨List.forall_mem_append.mpr ⟨others, lacks.switches⟩, lacks.words⟩

theorem withWord (lacks : arguments.Lacks name) {word : String} (other : name ≠ word) :
    (arguments.withWord word).Lacks name :=
  ⟨lacks.switches, List.not_mem_cons_of_ne_of_not_mem other lacks.words⟩

theorem has_eq_false (lacks : arguments.Lacks name) : arguments.has name = false := by
  simpa [has] using lacks.switches

end Arguments.Lacks

/-! ## Reading switches -/

/-- The name stands for itself alone: no letter is short for it, and it takes no value. -/
def IsBare (known : List Switch) (name : String) : Prop :=
  ∀ switch ∈ known, switch.name = name → switch.letter = none ∧ switch.takesValue = false

theorem lacks_of_readLetters {known : List Switch} {name : String} (bare : IsBare known name)
    {letters : List Char} {cluster : Cluster}
    (isCluster : readLetters known letters = .ok cluster) :
    cluster.Lacks name := by
  induction letters generalizing cluster with
  | nil =>
      cases isCluster
      exact ⟨nofun, nofun⟩
  | cons letter rest induction =>
      rw [readLetters] at isCluster
      split at isCluster
      · contradiction
      · rename_i switch found
        have isLetter : switch.letter = some letter := by simpa using List.find?_some found
        have different : switch.name ≠ name := fun same => by
          have noLetter := (bare switch (List.mem_of_find?_eq_some found) same).1
          exact nomatch noLetter.symm.trans isLetter
        split at isCluster
        · rcases Except.bind_eq_ok_iff.mp isCluster with ⟨others, isOthers, same⟩
          cases same
          rcases induction isOthers with ⟨given, pending⟩
          exact ⟨List.forall_mem_cons.mpr ⟨different, given⟩, pending⟩
        · split at isCluster
          · cases isCluster
            exact ⟨nofun, fun awaited isAwaited => by cases isAwaited; exact different⟩
          · cases isCluster
            exact ⟨List.forall_mem_singleton.mpr different, nofun⟩

theorem lacks_of_readLong {switch : Switch} {name : String} (different : switch.name ≠ name)
    {value : Option String} {cluster : Cluster} (isCluster : readLong switch value = .ok cluster) :
    cluster.Lacks name := by
  unfold readLong at isCluster
  split at isCluster
  · cases isCluster
    exact ⟨nofun, fun awaited isAwaited => by cases isAwaited; exact different⟩
  · contradiction
  · cases isCluster
    exact ⟨List.forall_mem_singleton.mpr different, nofun⟩

theorem eq_of_splitValue {argument name : String} (whole : splitValue argument = (name, none)) :
    name = argument := by
  unfold splitValue at whole
  dsimp only at whole
  split at whole
  · exact (Prod.mk.inj whole).1.symm
  · exact nomatch (Prod.mk.inj whole).2

/-- Any other argument than the name itself gives other switches. -/
theorem lacks_of_readSwitch {known : List Switch} {name : String} (bare : IsBare known name)
    {argument : String} (other : argument ≠ name) {cluster : Cluster}
    (isCluster : readSwitch known argument = .ok cluster) : cluster.Lacks name := by
  unfold readSwitch at isCluster
  rcases isSplit : splitValue argument with ⟨spelled, value⟩
  rw [isSplit] at isCluster
  dsimp only at isCluster
  cases found : known.find? (·.name = spelled) with
  | some switch =>
      rw [found] at isCluster
      have isSpelled : switch.name = spelled := by simpa using List.find?_some found
      refine lacks_of_readLong (fun isName => ?_) isCluster
      have noValue := (bare switch (List.mem_of_find?_eq_some found) isName).2
      cases value with
      | none => exact other ((eq_of_splitValue isSplit).symm.trans (isSpelled.symm.trans isName))
      | some text => simp [readLong, noValue] at isCluster
  | none =>
      rw [found] at isCluster
      dsimp only at isCluster
      split at isCluster
      · contradiction
      · exact lacks_of_readLetters bare isCluster
      · cases isCluster
        exact ⟨nofun, nofun⟩

/-! ## Sorting -/

theorem lacks_of_sortBehind {known : List Switch} {name : String} (bare : IsBare known name)
    {mingled : Bool} {awaited : Option (String × String)} {arguments : List String}
    {sorted : Arguments} (isSorted : sortBehind known mingled awaited arguments = .ok sorted)
    (isOther : ∀ other ∈ awaited, other.1 ≠ name) (absent : name ∉ arguments) :
    sorted.Lacks name := by
  induction awaited, arguments using sortBehind.induct mingled generalizing sorted with
  | case1 =>
      cases isSorted
      exact ⟨nofun, nofun⟩
  | case2 other spelling => contradiction
  | case3 other spelling value rest induction =>
      rw [sortBehind, Except.bind_eq_ok_iff] at isSorted
      rcases isSorted with ⟨others, isOthers, same⟩
      cases same
      exact (induction isOthers nofun fun member => absent (.tail _ member)).withSwitches
        (List.forall_mem_singleton.mpr (isOther _ rfl))
  | case4 rest =>
      cases isSorted
      exact ⟨nofun, fun member => absent (.tail _ member)⟩
  | case5 argument rest notEnd isSwitch induction =>
      rw [sortBehind, if_neg notEnd, if_pos isSwitch, Except.bind_eq_ok_iff] at isSorted
      rcases isSorted with ⟨cluster, isCluster, isSorted⟩
      rcases Except.bind_eq_ok_iff.mp isSorted with ⟨others, isOthers, same⟩
      cases same
      have lacks := lacks_of_readSwitch bare (fun same => absent (same ▸ .head _)) isCluster
      exact (induction cluster isOthers lacks.2 fun member =>
        absent (.tail _ member)).withSwitches lacks.1
  | case6 argument rest notEnd notSwitch isMingled induction =>
      rw [sortBehind, if_neg notEnd, if_neg notSwitch, if_pos isMingled,
        Except.bind_eq_ok_iff] at isSorted
      rcases isSorted with ⟨others, isOthers, same⟩
      cases same
      exact (induction isOthers nofun fun member => absent (.tail _ member)).withWord fun same =>
        absent (same ▸ .head _)
  | case7 argument rest notEnd notSwitch notMingled =>
      rw [sortBehind, if_neg notEnd, if_neg notSwitch, if_neg notMingled] at isSorted
      cases isSorted
      exact ⟨nofun, absent⟩

/-- A bare name that is no argument is neither given nor a word. -/
theorem lacks_of_sortArguments {known : List Switch} {name : String} (bare : IsBare known name)
    {mingled : Bool} {arguments : List String} (absent : name ∉ arguments) {sorted : Arguments}
    (isSorted : sortArguments known mingled arguments = .ok sorted) : sorted.Lacks name :=
  lacks_of_sortBehind bare isSorted nofun absent

end BucketGuard.CommandLine
