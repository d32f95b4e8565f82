import BucketGuard.Proofs.Json.Rereading
import BucketGuard.Proofs.Text.Parts

namespace BucketGuard.Json

/-! Canonical text is one for all values that are alike and loses nothing of a value but the order
of its members. Written text is visible ASCII but for the gaps of its layout, so a file keeps it as
it is, and reading it gives the ordered value back. -/

/-! ## Characters -/

abbrev IsVisible (character : Char) : Prop := 0x20 ≤ character.toNat ∧ character.toNat < 0x7f

private theorem visible_append {first second : List Char}
    (ofFirst : ∀ character ∈ first, IsVisible character)
    (ofSecond : ∀ character ∈ second, IsVisible character) :
    ∀ character ∈ first ++ second, IsVisible character :=
  List.forall_mem_append.mpr ⟨ofFirst, ofSecond⟩

private theorem visible_of_all {text : List Char}
    (all : text.all fun character => decide (IsVisible character)) :
    ∀ character ∈ text, IsVisible character := fun character member =>
  of_decide_eq_true (List.all_eq_true.mp all character member)

private theorem visible_digitChar : ∀ digit : Fin 16, IsVisible (Nat.digitChar digit) := by decide

private theorem visible_unitEscape {unit : Nat} (bound : unit < 0x10000) :
    ∀ character ∈ unitEscape unit, IsVisible character := by
  have digit (number : Nat) (small : number < 16) : IsVisible (Nat.digitChar number) :=
    visible_digitChar ⟨number, small⟩
  rw [unitEscape, hexadecimal_four unit bound]
  simp only [List.forall_mem_cons, List.not_mem_nil, false_imp_iff, implies_true, and_true]
  exact ⟨by decide, by decide, digit _ (by omega), digit _ (by omega), digit _ (by omega),
    digit _ (by omega)⟩

private theorem visible_pointEscape (character : Char) :
    ∀ written ∈ pointEscape character.toNat, IsVisible written := by
  have bounds := toNat_bounds character
  unfold pointEscape
  split
  · exact visible_unitEscape (by omega)
  · exact visible_append (visible_unitEscape (by omega)) (visible_unitEscape (by omega))

private theorem visible_writeCharacter (character : Char) :
    ∀ written ∈ writeCharacter character, IsVisible written := by
  unfold writeCharacter
  split
  · exact visible_of_all (by decide)
  split
  · exact visible_of_all (by decide)
  split
  · exact visible_of_all (by decide)
  split
  · exact visible_of_all (by decide)
  split
  · exact visible_of_all (by decide)
  split
  · exact visible_of_all (by decide)
  split
  · exact visible_of_all (by decide)
  split
  next visible => exact List.forall_mem_singleton.mpr visible
  next => exact visible_pointEscape character

theorem visible_writeText (text : String) : ∀ character ∈ writeText text, IsVisible character := by
  have quote : IsVisible '"' := by decide
  refine List.forall_mem_cons.mpr ⟨quote, visible_append ?_ (List.forall_mem_singleton.mpr quote)⟩
  intro written member
  rcases List.mem_flatMap.mp member with ⟨character, -, isWritten⟩
  exact visible_writeCharacter character written isWritten

theorem visible_writeScalar (value : Scalar) :
    ∀ character ∈ writeScalar value, IsVisible character := by
  by_cases isText : ∃ text, value = .str text
  · rcases isText with ⟨text, rfl⟩
    exact visible_writeText text
  · have written := writeScalar_subset fun text same => isText ⟨text, same⟩
    have visible : ∀ character ∈ scalarCharacters, IsVisible character :=
      visible_of_all (by decide)
    exact fun character member => visible character (written member)

/-! ## Layouts -/

namespace Layout

/-- The characters that a layout needs besides visible ones. -/
def gaps : Layout → List Char
  | .indented indentation => '\n' :: indentation
  | _ => []

/-- The text is visible but for the gaps of the layout. -/
def Fills (layout : Layout) (text : List Char) : Prop :=
  ∀ character ∈ text, IsVisible character ∨ character ∈ layout.gaps

variable {layout : Layout}

theorem Fills.of_visible {text : List Char} (visible : ∀ character ∈ text, IsVisible character) :
    layout.Fills text := fun character member => .inl (visible character member)

theorem Fills.nil : layout.Fills [] := fun _ member => nomatch member

theorem Fills.cons {first : Char} {rest : List Char} (visible : IsVisible first)
    (ofRest : layout.Fills rest) : layout.Fills (first :: rest) :=
  List.forall_mem_cons.mpr ⟨.inl visible, ofRest⟩

theorem Fills.append {first second : List Char} (ofFirst : layout.Fills first)
    (ofSecond : layout.Fills second) : layout.Fills (first ++ second) :=
  List.forall_mem_append.mpr ⟨ofFirst, ofSecond⟩

theorem fills_lineBreak (layout : Layout) (level : Nat) :
    layout.Fills (layout.lineBreak level) := by
  cases layout with
  | compact => exact .nil
  | spaced => exact .nil
  | indented indentation =>
      refine List.forall_mem_cons.mpr ⟨.inr (.head _), fun character member => ?_⟩
      rcases List.mem_flatten.mp member with ⟨copy, isCopy, isMember⟩
      rw [List.eq_of_mem_replicate isCopy] at isMember
      exact .inr (.tail _ isMember)

theorem fills_comma (layout : Layout) (level : Nat) : layout.Fills (layout.comma level) := by
  cases layout with
  | compact => exact .cons (by decide) .nil
  | spaced => exact .cons (by decide) (.cons (by decide) .nil)
  | indented indentation => exact .cons (by decide) (fills_lineBreak _ level)

theorem fills_colon (layout : Layout) : layout.Fills layout.colon := by
  cases layout with
  | compact => exact .cons (by decide) .nil
  | spaced => exact .cons (by decide) (.cons (by decide) .nil)
  | indented indentation => exact .cons (by decide) (.cons (by decide) .nil)

end Layout

section Parts

variable {layout : Layout}

private theorem fills_writeItems {items : List Json}
    (written : ∀ item ∈ items, ∀ level, layout.Fills (write layout level item)) (level : Nat) :
    layout.Fills (writeItems layout level items) := by
  induction items with
  | nil => exact .nil
  | cons item rest induction =>
      have ofRest := induction fun other member => written other (.tail _ member)
      rw [writeItems]
      exact ((layout.fills_comma level).append (written item (.head _) level)).append ofRest

private theorem fills_member (key : String) {value : Json} {level : Nat}
    (written : layout.Fills (write layout level value)) {before : List Char}
    (ofBefore : layout.Fills before) :
    layout.Fills (before ++ writeText key ++ layout.colon ++ write layout level value) :=
  ((ofBefore.append (.of_visible (visible_writeText key))).append layout.fills_colon).append written

private theorem fills_writeMembers {members : List (String × Json)}
    (written : ∀ member ∈ members, ∀ level, layout.Fills (write layout level member.2))
    (level : Nat) : layout.Fills (writeMembers layout level members) := by
  induction members with
  | nil => exact .nil
  | cons member rest induction =>
      have ofRest := induction fun other isMember => written other (.tail _ isMember)
      rw [writeMembers]
      exact (fills_member member.1 (written member (.head _) level)
        (layout.fills_comma level)).append ofRest

/-- Whatever a value holds, its text is visible but for the gaps. -/
theorem fills_write (layout : Layout) (value : Json) (level : Nat) :
    layout.Fills (write layout level value) := by
  have gap := layout.fills_lineBreak
  induction value using Tree.inductionOn generalizing level with
  | leaf value => exact .of_visible (visible_writeScalar value)
  | arr items induction =>
      cases items with
      | nil => exact .cons (by decide) (.cons (by decide) .nil)
      | cons item rest =>
          have first := induction item (.head _) (level + 1)
          have others := fills_writeItems (fun other member => induction other (.tail _ member))
            (level + 1)
          have close : layout.Fills [']'] := .cons (by decide) .nil
          rw [write]
          have item := (gap (level + 1)).append first
          exact .cons (by decide) (((item.append others).append (gap _)).append close)
  | obj members induction =>
      cases members with
      | nil => exact .cons (by decide) (.cons (by decide) .nil)
      | cons member rest =>
          have first := induction member (.head _) (level + 1)
          have others := fills_writeMembers
            (fun other isMember => induction other (.tail _ isMember)) (level + 1)
          have close : layout.Fills ['}'] := .cons (by decide) .nil
          rw [write]
          have ofMember := fills_member member.1 first (gap (level + 1))
          exact .cons (by decide) (((ofMember.append others).append (gap _)).append close)

end Parts

/-- Text in a layout without gaps is a line of visible characters. -/
theorem visible_print {layout : Layout} (noGaps : layout.gaps = []) (value : Json) :
    ∀ character ∈ (value.print layout).toList, IsVisible character := by
  intro character member
  rw [print, String.toList_ofList] at member
  exact (fills_write layout value 0 character member).resolve_right (noGaps ▸ List.not_mem_nil)

/-- A text in a layout of spaces is the same once its line breaks are line feeds. -/
theorem withLineFeeds_print {layout : Layout} (noReturn : '\r' ∉ layout.gaps) (value : Json) :
    Text.withLineFeeds (value.print layout).toList = (value.print layout).toList := by
  refine Text.withLineFeeds_of_not_mem fun member => ?_
  rw [print, String.toList_ofList] at member
  rcases fills_write layout value 0 '\r' member with visible | inGap
  · exact absurd visible (by decide)
  · exact noReturn inGap

/-! ## Reading back -/

/-- Limits that admit a value admit it with its members in order. -/
theorem ReadLimits.Admits.ordered {limits : ReadLimits} {value : Json}
    (admits : limits.Admits value) : limits.Admits value.ordered := by
  induction admits with
  | leaf short => exact .leaf short
  | arr isInner _ induction =>
      rw [Json.ordered, orderedItems_eq_map]
      exact .arr isInner (List.forall_mem_map.mpr induction)
  | @obj _ _ members isInner _ induction =>
      rw [Json.ordered]
      refine .obj isInner fun member isMember => ?_
      rw [(Members.sortBy_perm keyLess _).mem_iff, orderedMembers_eq_map] at isMember
      rcases List.mem_map.mp isMember with ⟨original, isOriginal, rfl⟩
      exact induction original isOriginal

/-- A text is asked for in the compact layout or with a width, and both are made of blanks. -/
theorem exists_layout {request : Json}
    (isRequest : request = .null ∨ ∃ width : Int, request = .int width) (value : Json) :
    ∃ layout : Layout, layout.IsBlank ∧ '\r' ∉ layout.gaps ∧
      canonicalAs? request value = some (value.canonical layout) := by
  by_cases isText : ∃ text, value = .str text
  · rcases isText with ⟨text, rfl⟩
    exact ⟨.compact, trivial, List.not_mem_nil, rfl⟩
  have asked : canonicalAs? request value = (Layout.ofRequest? request).map value.canonical := by
    rw [canonicalAs?]
    exact fun text same => isText ⟨text, same⟩
  rcases isRequest with rfl | ⟨width, rfl⟩
  · exact ⟨.compact, trivial, List.not_mem_nil, asked⟩
  · refine ⟨.ofWidth width, Layout.isBlank_ofWidth width, fun member => ?_, asked⟩
    rcases List.mem_cons.mp member with same | inIndentation
    · contradiction
    · exact absurd (List.eq_of_mem_replicate inIndentation) (by decide)

theorem readWithin_canonical {limits : ReadLimits} {value : Json} (wellFormed : value.WellFormed)
    (admits : limits.Admits value) {layout : Layout} (blank : layout.IsBlank)
    (noReturn : '\r' ∉ layout.gaps) :
    readWithin limits (Text.withLineFeeds (value.canonical layout).toList) = .ok value.ordered := by
  have noSpace : Blank [] := fun _ member => nomatch member
  have reading := readWithin_print wellFormed.ordered admits.ordered blank noSpace
  rwa [List.append_nil, ← withLineFeeds_print noReturn] at reading

/-! ## Canonical text -/

theorem canonical_eq_iff_alike {left right : Json} (leftWellFormed : left.WellFormed)
    (rightWellFormed : right.WellFormed) :
    left.canonical .compact = right.canonical .compact ↔ Alike left right := by
  constructor
  · intro same
    have blank : Layout.compact.IsBlank := trivial
    exact alike_of_ordered_eq
      (print_injective leftWellFormed.ordered rightWellFormed.ordered blank same)
  · intro alike
    rw [canonical, canonical, ordered_eq_of_alike leftWellFormed.hasDistinctKeys alike]

/-- Canonical text is the same exactly for values that are alike; it is one line of visible
characters; and however it is laid out, a file that holds it is read as a value that is alike,
within all limits that admit the value. A value without floats is well formed if no object repeats
a key. -/
theorem canonical_faithful {left right : Json} (leftWellFormed : left.WellFormed)
    (rightWellFormed : right.WellFormed) :
    (left.canonical .compact = right.canonical .compact ↔ Alike left right) ∧
      (∀ character ∈ (left.canonical .compact).toList, IsVisible character) ∧
      canonicalAs? .null left = some (left.canonical .compact) ∧
      ∀ request : Json, (request = .null ∨ ∃ width : Int, request = .int width) →
        ∃ text value, canonicalAs? request left = some text ∧ Alike left value ∧
          read (Text.withLineFeeds text.toList) = .ok value ∧
          ∀ limits : ReadLimits, limits.Admits left →
            readWithin limits (Text.withLineFeeds text.toList) = .ok value := by
  refine ⟨canonical_eq_iff_alike leftWellFormed rightWellFormed, visible_print rfl left.ordered, ?_,
    fun request isRequest => ?_⟩
  · unfold canonicalAs?
    split
    · rfl
    · rfl
  · rcases exists_layout isRequest left with ⟨layout, blank, noReturn, asked⟩
    have alike : Alike left left.ordered := alike_of_ordered_eq left.ordered_ordered.symm
    exact ⟨_, _, asked, alike,
      readWithin_canonical leftWellFormed (ReadLimits.admits_unlimited left) blank noReturn,
      fun limits admits => readWithin_canonical leftWellFormed admits blank noReturn⟩

private def numbered : List (String × Json) :=
  [("a", .arr [.int (-10000000000000000000000000)]), ("😀", .str "\x7f\n")]

theorem canonical_faithful_of_numbered :
    WellFormed (.obj numbered) ∧ WellFormed (.obj numbered.reverse) ∧
      canonical .compact (.obj numbered) = canonical .compact (.obj numbered.reverse) := by
  have wellFormed : WellFormed (.obj numbered) := by
    refine .obj (by decide) (List.forall_mem_cons.mpr ⟨?_, List.forall_mem_singleton.mpr ?_⟩)
    · exact .arr (List.forall_mem_singleton.mpr (.leaf trivial))
    · exact wellFormed_str _
  have reversed : WellFormed (.obj numbered.reverse) :=
    .obj (by decide) fun member isMember =>
      (Tree.every_obj_iff.mp wellFormed).2 member (List.mem_reverse.mp isMember)
  have alike := Alike.of_perm (List.reverse_perm numbered).symm
  exact ⟨wellFormed, reversed, (canonical_faithful wellFormed reversed).1.mpr alike⟩

end BucketGuard.Json
