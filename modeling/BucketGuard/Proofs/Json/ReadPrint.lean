import BucketGuard.Proofs.Json.Text
import BucketGuard.Proofs.Json.WellFormed

namespace BucketGuard

/-! Reading what was printed gives the value back, in every layout that sets its parts apart by
nothing but spaces and line breaks. Each part is read with an arbitrary text behind it, and the fuel
is counted by the characters that are left. -/

namespace Json

/-! ## Spaces -/

abbrev Blank (text : List Char) : Prop := ∀ character ∈ text, isSpace character

private theorem skipSpace_append {blank : List Char} (isBlank : Blank blank) (rest : List Char) :
    skipSpace (blank ++ rest) = skipSpace rest := by
  rw [skipSpace, List.dropWhile_append_of_pos isBlank, skipSpace]

private theorem skipSpace_cons {first : Char} (noSpace : isSpace first = false)
    (rest : List Char) : skipSpace (first :: rest) = first :: rest := by
  rw [skipSpace, List.dropWhile_cons, noSpace, if_neg Bool.false_ne_true]

namespace Layout

/-- Levels are indented by spaces alone. -/
def IsBlank : Layout → Prop
  | .indented indentation => Blank indentation
  | _ => True

theorem isBlank_ofWidth (width : Int) : (ofWidth width).IsBlank := fun _ member =>
  List.eq_of_mem_replicate member ▸ rfl

variable {layout : Layout}

private theorem blank_lineBreak (blank : layout.IsBlank) (level : Nat) :
    Blank (layout.lineBreak level) := by
  cases layout with
  | compact => exact fun _ member => nomatch member
  | spaced => exact fun _ member => nomatch member
  | indented indentation =>
      refine List.forall_mem_cons.mpr ⟨rfl, fun character member => ?_⟩
      rcases List.mem_flatten.mp member with ⟨copy, isCopy, isMember⟩
      rw [List.eq_of_mem_replicate isCopy] at isMember
      exact blank character isMember

private theorem comma_eq (blank : layout.IsBlank) (level : Nat) :
    ∃ blanks, layout.comma level = ',' :: blanks ∧ Blank blanks := by
  cases layout with
  | compact => exact ⟨[], rfl, fun _ member => nomatch member⟩
  | spaced => exact ⟨[' '], rfl, List.forall_mem_singleton.mpr rfl⟩
  | indented indentation => exact ⟨_, rfl, blank_lineBreak blank level⟩

private theorem colon_eq (layout : Layout) :
    ∃ blanks, layout.colon = ':' :: blanks ∧ Blank blanks := by
  cases layout with
  | compact => exact ⟨[], rfl, fun _ member => nomatch member⟩
  | spaced => exact ⟨[' '], rfl, List.forall_mem_singleton.mpr rfl⟩
  | indented indentation => exact ⟨[' '], rfl, List.forall_mem_singleton.mpr rfl⟩

/-- A number ends before a line break, where there is one, and before what closes behind it. -/
private theorem ends_lineBreak {closing : Char} (stops : goesOn closing = false) (level : Nat)
    (rest : List Char) : Ends (layout.lineBreak level ++ closing :: rest) := by
  cases layout with
  | compact => exact ends_cons stops rest
  | spaced => exact ends_cons stops rest
  | indented indentation => exact ends_cons rfl _

end Layout

/-! ## Where a written value begins -/

private theorem readScalar?_of_opening {first : Char}
    (opening : isSpace first ∨ first ∈ ['"', '[', ']', '{', '}', '\ufeff']) (others : List Char) :
    readScalar? (first :: others) = none := by
  simp only [isSpace, Bool.or_eq_true, decide_eq_true_eq, List.mem_cons, List.not_mem_nil,
    or_false] at opening
  rcases opening with (((rfl | rfl) | rfl) | rfl) | rfl | rfl | rfl | rfl | rfl | rfl <;> rfl

/-- A written value begins with a character that is no space, closes nothing and marks no order of
bytes. -/
private theorem exists_first {value : Json} (wellFormed : value.WellFormed) (layout : Layout)
    (level : Nat) :
    ∃ first others, write layout level value = first :: others ∧ isSpace first = false ∧
      first ≠ ']' ∧ first ≠ '\ufeff' := by
  cases value with
  | leaf value =>
      by_cases isText : ∃ text, value = .str text
      · rcases isText with ⟨text, rfl⟩
        exact ⟨'"', _, rfl, rfl, by decide, by decide⟩
      · have reading := readScalar?_writeScalar (fun text same => isText ⟨text, same⟩)
          (Tree.every_leaf_iff.mp wellFormed) ends_nil
        rw [List.append_nil] at reading
        cases written : writeScalar value with
        | nil => rw [written] at reading; contradiction
        | cons first others =>
            rw [written] at reading
            have noOpening :
                ¬(isSpace first ∨ first ∈ ['"', '[', ']', '{', '}', '\ufeff']) := by
              intro opening
              rw [readScalar?_of_opening opening] at reading
              contradiction
            rw [not_or] at noOpening
            refine ⟨first, others, written, Bool.eq_false_iff.mpr noOpening.1, ?_, ?_⟩
            · rintro rfl
              exact noOpening.2 (by decide)
            · rintro rfl
              exact noOpening.2 (by decide)
  | arr items => cases items <;> exact ⟨'[', _, rfl, rfl, by decide, by decide⟩
  | obj members => cases members <;> exact ⟨'{', _, rfl, rfl, by decide, by decide⟩

/-! ## Values -/

/-- No integer in the value is too long for the limits, and nothing is nested too deep. -/
inductive ReadLimits.Admits : ReadLimits → Json → Prop
  | leaf {limits : ReadLimits} {value : Scalar} (short : limits.isTooLong value = false) :
      Admits limits (.leaf value)
  | arr {limits inner : ReadLimits} {items : List Json} (isInner : limits.inner? = some inner)
      (ofItems : ∀ item ∈ items, Admits inner item) : Admits limits (.arr items)
  | obj {limits inner : ReadLimits} {members : List (String × Json)}
      (isInner : limits.inner? = some inner) (ofValues : ∀ member ∈ members, Admits inner member.2) :
      Admits limits (.obj members)

theorem ReadLimits.admits_unlimited (value : Json) : unlimited.Admits value := by
  induction value using Tree.inductionOn with
  | leaf value => exact .leaf (by cases value <;> rfl)
  | arr items induction => exact .arr rfl induction
  | obj members induction => exact .obj rfl induction

section Limits

variable {limits : ReadLimits}

/-- The value is read back in front of every text that does not go on it, with fuel enough. -/
private def ReadsBack (limits : ReadLimits) (value : Json) : Prop :=
  ∀ {layout : Layout}, layout.IsBlank → ∀ (level : Nat) {rest : List Char}, Ends rest →
    ∀ {fuel : Nat}, 2 * (write layout level value).length ≤ fuel + 1 →
      readValue limits fuel (write layout level value ++ rest) = .ok (value, rest)

private theorem readValue_scalar {value : Scalar} {text rest : List Char}
    (reading : readScalar? text = some (value, rest)) (short : limits.isTooLong value = false)
    (fuel : Nat) : readValue limits (fuel + 1) text = .ok (.leaf value, rest) := by
  have opens {first : Char} {others : List Char} (equal : text = first :: others)
      (opening : first ∈ ['"', '[', ']', '{', '}', '\ufeff']) : False := by
    rw [equal, readScalar?_of_opening (.inr opening)] at reading
    contradiction
  rw [readValue.eq_def]
  dsimp only
  split
  · exact (opens rfl (by decide)).elim
  · exact (opens rfl (by decide)).elim
  · exact (opens rfl (by decide)).elim
  · simp only [reading, short]
    rfl

private theorem readsBack_leaf {value : Scalar} (inForm : value.InForm)
    (short : limits.isTooLong value = false) : ReadsBack limits (.leaf value) := by
  intro layout _ level rest ends fuel enough
  cases fuel with
  | zero =>
      rcases exists_first (.leaf inForm) layout level with ⟨first, others, equal, -, -, -⟩
      rw [equal, List.length_cons] at enough
      omega
  | succ fuel =>
      by_cases isText : ∃ text, value = .str text
      · rcases isText with ⟨text, rfl⟩
        rw [write, writeScalar, writeText, List.cons_append, List.append_assoc]
        rw [readValue]
        have reading := readText_writeText text rest
        rw [List.singleton_append, reading]
        rfl
      · exact readValue_scalar (readScalar?_writeScalar (fun text same => isText ⟨text, same⟩)
          inForm ends) short fuel

/-! ## Items and members -/

private theorem readItems_last {fuel : Nat} {text afterItem rest : List Char} {item : Json}
    (first : readValue limits fuel text = .ok (item, afterItem))
    (closes : skipSpace afterItem = ']' :: rest) :
    readItems limits (fuel + 1) text = .ok ([item], rest) := by
  rw [readItems, first]
  simp only [bind, Except.bind, closes]
  rfl

private theorem readItems_more {fuel : Nat} {text afterItem next rest : List Char} {item : Json}
    {items : List Json} (first : readValue limits fuel text = .ok (item, afterItem))
    (goesOn : skipSpace afterItem = ',' :: next)
    (others : readItems limits fuel (skipSpace next) = .ok (items, rest)) :
    readItems limits (fuel + 1) text = .ok (item :: items, rest) := by
  rw [readItems, first]
  simp only [bind, Except.bind, goesOn, others]
  rfl

private theorem readMembers_last {fuel : Nat} {text afterValue rest : List Char} {value : Json}
    (first : readValue limits fuel (skipSpace text) = .ok (value, afterValue))
    (closes : skipSpace afterValue = '}' :: rest) (present : List (String × Json)) (key : String) :
    readMembers limits (fuel + 1) present (writeText key ++ ':' :: text) =
      .ok (Members.put present key value, rest) := by
  have name := readText_writeText key (':' :: text)
  have colon : skipSpace (':' :: text) = ':' :: text := skipSpace_cons rfl text
  rw [writeText, List.cons_append, List.append_assoc, List.singleton_append, readMembers, name]
  simp only [bind, Except.bind, colon, first, closes]
  rfl

private theorem readMembers_more {fuel : Nat} {text afterValue next rest : List Char}
    {value : Json} (first : readValue limits fuel (skipSpace text) = .ok (value, afterValue))
    (goesOn : skipSpace afterValue = ',' :: next) (present : List (String × Json)) (key : String)
    {members : List (String × Json)}
    (others : readMembers limits fuel (Members.put present key value) (skipSpace next) =
      .ok (members, rest)) :
    readMembers limits (fuel + 1) present (writeText key ++ ':' :: text) =
      .ok (members, rest) := by
  have name := readText_writeText key (':' :: text)
  have colon : skipSpace (':' :: text) = ':' :: text := skipSpace_cons rfl text
  rw [writeText, List.cons_append, List.append_assoc, List.singleton_append, readMembers, name]
  simp only [bind, Except.bind, colon, first, goesOn, others]

section Parts

variable {layout : Layout} (blank : layout.IsBlank) {level outer : Nat} {rest : List Char}

private theorem skipSpace_write {value : Json} (wellFormed : value.WellFormed)
    (rest : List Char) :
    skipSpace (write layout level value ++ rest) = write layout level value ++ rest := by
  rcases exists_first wellFormed layout level with ⟨first, others, equal, noSpace, -, -⟩
  rw [equal, List.cons_append, skipSpace_cons noSpace]

private theorem write_length {value : Json} (wellFormed : value.WellFormed) :
    0 < (write layout level value).length := by
  rcases exists_first wellFormed layout level with ⟨first, others, equal, -, -, -⟩
  rw [equal, List.length_cons]
  omega

/-- A value is read back from behind a gap. -/
private theorem ReadsBack.behind {value : Json} (readsBack : ReadsBack limits value)
    (wellFormed : value.WellFormed) {gap : List Char} (isGap : Blank gap)
    (blank : layout.IsBlank) (level : Nat) {rest : List Char} (ends : Ends rest) {fuel : Nat}
    (enough : 2 * (write layout level value).length ≤ fuel + 1) :
    readValue limits fuel (skipSpace (gap ++ (write layout level value ++ rest))) =
      .ok (value, rest) := by
  rw [skipSpace_append isGap, skipSpace_write wellFormed]
  exact readsBack blank level ends enough

include blank

private theorem closes {closing : Char} (noSpace : isSpace closing = false) :
    skipSpace (layout.lineBreak outer ++ closing :: rest) = closing :: rest := by
  rw [skipSpace_append (Layout.blank_lineBreak blank outer), skipSpace_cons noSpace]

private theorem readItems_write {item : Json} {items : List Json}
    (wellFormed : ∀ value ∈ item :: items, value.WellFormed)
    (readsBack : ∀ value ∈ item :: items, ReadsBack limits value) {fuel : Nat}
    (enough : 2 * ((write layout level item).length + (writeItems layout level items).length) ≤
      fuel) :
    readItems limits fuel (write layout level item ++ (writeItems layout level items ++
        (layout.lineBreak outer ++ ']' :: rest))) = .ok (item :: items, rest) := by
  induction items generalizing item fuel with
  | nil =>
      have some : 0 < (write layout level item).length := write_length (wellFormed item (.head _))
      rcases Nat.exists_eq_add_one.mpr (by omega : 0 < fuel) with ⟨fuel, rfl⟩
      rw [writeItems, List.nil_append]
      exact readItems_last
        (readsBack item (.head _) blank level (Layout.ends_lineBreak rfl outer rest) (by omega))
        (closes blank rfl)
  | cons next others induction =>
      have some : 0 < (write layout level item).length := write_length (wellFormed item (.head _))
      rcases Nat.exists_eq_add_one.mpr (by omega : 0 < fuel) with ⟨fuel, rfl⟩
      rcases Layout.comma_eq blank level with ⟨blanks, comma, isBlank⟩
      have ofRest := fun value member => wellFormed value (.tail _ member)
      rw [writeItems, comma, List.length_append, List.length_append, List.length_cons] at enough
      rw [writeItems, comma, List.cons_append, List.cons_append, List.cons_append]
      refine readItems_more
        (readsBack item (.head _) blank level (ends_cons rfl _) (by omega)) (skipSpace_cons rfl _) ?_
      rw [List.append_assoc, List.append_assoc, skipSpace_append isBlank,
        skipSpace_write (ofRest next (.head _))]
      exact induction ofRest (fun value member => readsBack value (.tail _ member)) (by omega)

omit blank in
private theorem fresh_of_nodup {present members : List (String × Json)} {key : String}
    {value : Json} (nodup : ((present ++ (key, value) :: members).map Prod.fst).Nodup) :
    key ∉ present.map Prod.fst := by
  rw [List.map_append, List.nodup_append] at nodup
  exact fun isPresent => nodup.2.2 key isPresent key (.head _) rfl

private theorem readMembers_write {present : List (String × Json)} {key : String} {value : Json}
    {members : List (String × Json)}
    (nodup : ((present ++ (key, value) :: members).map Prod.fst).Nodup)
    (wellFormed : ∀ member ∈ (key, value) :: members, member.2.WellFormed)
    (readsBack : ∀ member ∈ (key, value) :: members, ReadsBack limits member.2) {fuel : Nat}
    (enough : 2 * ((write layout level value).length + (writeMembers layout level members).length) ≤
      fuel) :
    readMembers limits fuel present (writeText key ++ (layout.colon ++
        (write layout level value ++ (writeMembers layout level members ++
          (layout.lineBreak outer ++ '}' :: rest))))) =
      .ok (present ++ (key, value) :: members, rest) := by
  rcases Layout.colon_eq layout with ⟨gap, colon, isGap⟩
  induction members generalizing present key value fuel with
  | nil =>
      have ofValue : value.WellFormed := wellFormed (key, value) (.head _)
      have some : 0 < (write layout level value).length := write_length ofValue
      rcases Nat.exists_eq_add_one.mpr (by omega : 0 < fuel) with ⟨fuel, rfl⟩
      have readsValue : ReadsBack limits value := readsBack (key, value) (.head _)
      have ends : Ends (layout.lineBreak outer ++ '}' :: rest) := Layout.ends_lineBreak rfl outer rest
      have first := readsValue.behind ofValue isGap blank level ends (by omega : _ ≤ fuel + 1)
      have last := readMembers_last first (closes blank rfl) present key
      rw [Members.put_eq_append (fresh_of_nodup nodup)] at last
      rwa [colon, writeMembers, List.nil_append, List.cons_append]
  | cons next others induction =>
      have ofValue : value.WellFormed := wellFormed (key, value) (.head _)
      have some : 0 < (write layout level value).length := write_length ofValue
      rcases Nat.exists_eq_add_one.mpr (by omega : 0 < fuel) with ⟨fuel, rfl⟩
      rcases Layout.comma_eq blank level with ⟨blanks, comma, isBlank⟩
      rw [writeMembers, comma] at enough
      simp only [List.length_append, List.length_cons] at enough
      have readsValue : ReadsBack limits value := readsBack (key, value) (.head _)
      have ends : Ends (',' :: (blanks ++ (writeText next.1 ++ (layout.colon ++
          (write layout level next.2 ++ (writeMembers layout level others ++
            (layout.lineBreak outer ++ '}' :: rest))))))) := ends_cons rfl _
      have first := readsValue.behind ofValue isGap blank level ends (by omega : _ ≤ fuel + 1)
      have extended : ((present ++ [(key, value)] ++ (next.1, next.2) :: others).map
          Prod.fst).Nodup := by rwa [List.append_assoc]
      have later := induction extended
        (fun member isMember => wellFormed member (.tail _ isMember))
        (fun member isMember => readsBack member (.tail _ isMember)) (by omega : _ ≤ fuel)
      rw [List.append_assoc, List.singleton_append,
        ← Members.put_eq_append (fresh_of_nodup nodup)] at later
      have more := readMembers_more first (skipSpace_cons rfl _) present key
        (by rwa [skipSpace_append isBlank, writeText, List.cons_append, skipSpace_cons rfl])
      rw [writeMembers, comma]
      simpa only [colon, List.cons_append, List.append_assoc] using more

end Parts

private theorem readValue_items {inner : ReadLimits} (isInner : limits.inner? = some inner)
    {fuel : Nat} {text others rest : List Char} {first : Char} {items : List Json}
    (begins : skipSpace text = first :: others) (noBracket : first ≠ ']')
    (reading : readItems inner fuel (first :: others) = .ok (items, rest)) :
    readValue limits (fuel + 1) ('[' :: text) = .ok (.arr items, rest) := by
  rw [readValue.eq_def]
  simp only [isInner, begins]
  split
  · rename_i equal
    exact absurd (List.cons.inj equal).1 noBracket
  · rw [reading]
    rfl

private theorem readValue_members {inner : ReadLimits} (isInner : limits.inner? = some inner)
    {fuel : Nat} {text others rest : List Char} {members : List (String × Json)}
    (begins : skipSpace text = '"' :: others)
    (reading : readMembers inner fuel [] ('"' :: others) = .ok (members, rest)) :
    readValue limits (fuel + 1) ('{' :: text) = .ok (.obj members, rest) := by
  rw [readValue.eq_def]
  simp only [isInner, begins]
  change (readMembers inner fuel [] ('"' :: others)).map _ = _
  rw [reading]
  rfl

private theorem readsBack_arr {inner : ReadLimits} (isInner : limits.inner? = some inner)
    {items : List Json} (wellFormed : ∀ item ∈ items, item.WellFormed)
    (readsBack : ∀ item ∈ items, ReadsBack inner item) : ReadsBack limits (.arr items) := by
  intro layout blank level rest ends fuel enough
  cases items with
  | nil =>
      rw [write, List.length_cons] at enough
      rcases Nat.exists_eq_add_one.mpr (by omega : 0 < fuel) with ⟨fuel, rfl⟩
      rw [readValue.eq_def]
      simp only [write, List.cons_append, isInner]
      rfl
  | cons item others =>
      rw [write, List.length_cons] at enough
      simp only [List.length_append, List.length_singleton] at enough
      rcases Nat.exists_eq_add_one.mpr (by omega : 0 < fuel) with ⟨fuel, rfl⟩
      rcases exists_first (wellFormed item (.head _)) layout (level + 1) with
        ⟨first, behind, equal, noSpace, noBracket, -⟩
      have items : readItems inner fuel (write layout (level + 1) item ++
          (writeItems layout (level + 1) others ++ (layout.lineBreak level ++ ']' :: rest))) =
            .ok (item :: others, rest) :=
        readItems_write blank wellFormed readsBack (by omega)
      rw [equal, List.cons_append] at items
      rw [write, equal]
      simp only [List.cons_append, List.append_assoc, List.nil_append]
      refine readValue_items isInner ?_ noBracket items
      rw [skipSpace_append (Layout.blank_lineBreak blank _), skipSpace_cons noSpace]

private theorem readsBack_obj {inner : ReadLimits} (isInner : limits.inner? = some inner)
    {members : List (String × Json)} (nodup : (members.map Prod.fst).Nodup)
    (wellFormed : ∀ member ∈ members, member.2.WellFormed)
    (readsBack : ∀ member ∈ members, ReadsBack inner member.2) : ReadsBack limits (.obj members) := by
  intro layout blank level rest ends fuel enough
  cases members with
  | nil =>
      rw [write, List.length_cons] at enough
      rcases Nat.exists_eq_add_one.mpr (by omega : 0 < fuel) with ⟨fuel, rfl⟩
      rw [readValue.eq_def]
      simp only [write, List.cons_append, isInner]
      rfl
  | cons member others =>
      rcases member with ⟨key, value⟩
      rw [write, List.length_cons] at enough
      simp only [List.length_append, List.length_singleton] at enough
      rcases Nat.exists_eq_add_one.mpr (by omega : 0 < fuel) with ⟨fuel, rfl⟩
      have members : readMembers inner fuel [] (writeText key ++ (layout.colon ++
          (write layout (level + 1) value ++ (writeMembers layout (level + 1) others ++
            (layout.lineBreak level ++ '}' :: rest))))) = .ok ((key, value) :: others, rest) :=
        readMembers_write blank nodup wellFormed readsBack (by omega)
      rw [writeText, List.cons_append] at members
      rw [write, writeText]
      simp only [List.cons_append, List.append_assoc, List.nil_append] at members ⊢
      refine readValue_members isInner ?_ members
      rw [skipSpace_append (Layout.blank_lineBreak blank _), skipSpace_cons rfl]

private theorem readsBack {value : Json} (wellFormed : value.WellFormed)
    (admits : limits.Admits value) : ReadsBack limits value := by
  induction wellFormed generalizing limits with
  | leaf inForm =>
      cases admits with
      | leaf short => exact readsBack_leaf inForm short
  | arr wellFormed induction =>
      cases admits with
      | arr isInner ofItems =>
          exact readsBack_arr isInner wellFormed fun item member =>
            induction item member (ofItems item member)
  | obj nodup wellFormed induction =>
      cases admits with
      | obj isInner ofValues =>
          exact readsBack_obj isInner nodup wellFormed fun member isMember =>
            induction member isMember (ofValues member isMember)

end Limits

/-- A printed value is read back within all limits that admit it, whatever space is behind it. -/
theorem readWithin_print {limits : ReadLimits} {value : Json} (wellFormed : value.WellFormed)
    (admits : limits.Admits value) {layout : Layout} (blank : layout.IsBlank) {space : List Char}
    (isBlank : Blank space) :
    readWithin limits ((value.print layout).toList ++ space) = .ok value := by
  have ends : Ends space := by
    cases space with
    | nil => exact ends_nil
    | cons character others =>
        have isSpace := isBlank character (.head _)
        refine ends_cons ?_ others
        simp only [Json.isSpace, Bool.or_eq_true, decide_eq_true_eq] at isSpace
        rcases isSpace with ((rfl | rfl) | rfl) | rfl <;> rfl
  have enough : 2 * (write layout 0 value).length ≤
      2 * (write layout 0 value ++ space).length + 1 + 1 := by
    rw [List.length_append]
    omega
  have reading := readsBack wellFormed admits blank 0 ends enough
  have skipped : skipSpace space = [] := by
    have skipped := skipSpace_append isBlank []
    rwa [List.append_nil] at skipped
  rcases exists_first wellFormed layout 0 with ⟨first, others, equal, noSpace, -, noMark⟩
  rw [print, String.toList_ofList, readWithin]
  · rw [skipSpace_write wellFormed, reading]
    simp only [bind, Except.bind, skipped]
    rfl
  · rintro rest marked
    rw [equal] at marked
    exact noMark (List.cons.inj marked).1

theorem read_print {value : Json} (wellFormed : value.WellFormed) {layout : Layout}
    (blank : layout.IsBlank) {space : List Char} (isBlank : Blank space) :
    read ((value.print layout).toList ++ space) = .ok value :=
  readWithin_print wellFormed (ReadLimits.admits_unlimited value) blank isBlank

end Json

end BucketGuard
