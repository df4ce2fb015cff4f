import Munch.Proofs.Bookkeeping
import Munch.Proofs.Positions

/-! # Places of a source are in order

Bytes only grow with every character, but a column falls back behind each line feed. Line and column
together grow as bytes do, since the line rises where the column falls. So of two places to which
one source leads, the one with fewer bytes is displayed before the other, and a displayed line and
column are those of one place alone. -/
set_option autoImplicit false

namespace Munch

/-! ## What a place is displayed as -/

theorem Text.ofNat_inj {first second : Nat} :
    Text.ofNat first = Text.ofNat second ↔ first = second := by
  constructor
  · intro same
    have digits : Nat.toDigits 10 first = Nat.toDigits 10 second := same
    rw [← @Nat.ofDigitChars_ten_toDigits first, digits, Nat.ofDigitChars_ten_toDigits]
  · exact congrArg Text.ofNat

theorem Text.colon_not_mem_ofNat (number : Nat) : ':' ∉ Text.ofNat number := by
  intro member
  have digit := Nat.isDigit_of_mem_toDigits (by decide) (by decide) member
  contradiction

namespace Position

variable {first second : Position}

theorem split_display (place : Position) :
    Text.split ':' place.display = [Text.ofNat place.line, Text.ofNat place.column] := by
  rw [display, Text.split_append (Text.colon_not_mem_ofNat _),
    Text.split_of_not_mem (Text.colon_not_mem_ofNat _)]

/-- What a place is displayed as tells its line and its column. -/
theorem display_eq_iff :
    first.display = second.display ↔ first.line = second.line ∧ first.column = second.column := by
  constructor
  · intro same
    have pieces := congrArg (Text.split ':') same
    rw [split_display, split_display, List.cons.injEq, List.cons.injEq] at pieces
    exact ⟨Text.ofNat_inj.mp pieces.1, Text.ofNat_inj.mp pieces.2.1⟩
  · rintro ⟨line, column⟩
    rw [display, display, line, column]

/-! ## Line and column grow together -/

def ShownBefore (first second : Position) : Prop :=
  first.line < second.line ∨ first.line = second.line ∧ first.column < second.column

theorem ShownBefore.trans {third : Position} (before : first.ShownBefore second)
    (later : second.ShownBefore third) : first.ShownBefore third := by
  unfold ShownBefore at *
  omega

theorem shownBefore_advance (place : Position) (char : Char) :
    place.ShownBefore (place.advance char) := by
  unfold advance
  split
  · exact Or.inl (Nat.lt_succ_self _)
  · exact Or.inr ⟨rfl, Nat.lt_succ_self _⟩

theorem shownBefore_after {text : Text} (some : text ≠ []) (place : Position) :
    place.ShownBefore (place.after text) := by
  induction text generalizing place with
  | nil => contradiction
  | cons char rest ih =>
    have step := place.shownBefore_advance char
    rw [after_cons]
    cases rest with
    | nil => exact step
    | cons next rest => exact step.trans (ih (List.cons_ne_nil next rest) _)

theorem offset_lt_after {text : Text} (some : text ≠ []) (place : Position) :
    place.offset < (place.after text).offset := by
  have bytes := Text.utf8Length_pos some
  rw [offset_after]
  omega

/-! ## Places that calls lead to -/

def Reached (source : Text) (place : Position) : Prop :=
  ∃ calls, ((Cursor.ofText source).callAll calls).position = place

theorem callAll_advance (count : Nat) (cursor : Cursor) :
    cursor.callAll (List.replicate count .advance) = Cursor.advanceBy count cursor := by
  induction count generalizing cursor with
  | zero => rfl
  | succ count ih => exact ih cursor.advance

/-- Calls lead to the places to which the fronts of the source lead, and to no other. -/
theorem reached_iff {source : Text} {place : Position} : Reached source place ↔
    ∃ before behind, source = before ++ behind ∧ place = start.after before := by
  constructor
  · rintro ⟨calls, rfl⟩
    obtain ⟨composed, placed⟩ := (Cursor.within_ofText source).callAll calls
    exact ⟨_, _, composed.symm, placed⟩
  · rintro ⟨before, behind, rfl, rfl⟩
    refine ⟨List.replicate before.length .advance, ?_⟩
    rw [callAll_advance, Cursor.position_advanceBy, Cursor.rest_ofText, List.take_left]
    rfl

/-- Of two different places that are reached in a source, text of it leads from one to the other. -/
theorem Reached.cases {source : Text} (reached : Reached source first)
    (other : Reached source second) : first = second ∨
      (∃ text, text ≠ [] ∧ second = first.after text) ∨
      (∃ text, text ≠ [] ∧ first = second.after text) := by
  obtain ⟨before, behind, rfl, rfl⟩ := reached_iff.mp reached
  obtain ⟨front, rest, same, rfl⟩ := reached_iff.mp other
  by_cases equal : before = front
  · exact Or.inl (congrArg start.after equal)
  · rcases List.append_eq_append_iff.mp same with ⟨text, rfl, -⟩ | ⟨text, rfl, -⟩
    · refine Or.inr (Or.inl ⟨text, ?_, after_append start before text⟩)
      rintro rfl
      exact equal (List.append_nil before).symm
    · refine Or.inr (Or.inr ⟨text, ?_, after_append start front text⟩)
      rintro rfl
      exact equal (List.append_nil front)

/-! ## One order -/

/-- Whether two places compare alike in all ways: as places, by their bytes, and by their line and
column and what is displayed of them. -/
structure ComparedAlike (first second : Position) : Prop where
  offset_lt : first.offset < second.offset ↔ first < second
  shown_lt : first.ShownBefore second ↔ first < second
  offset_le : first.offset ≤ second.offset ↔ first ≤ second
  offset_eq : first.offset = second.offset ↔ first = second
  shown_eq : first.line = second.line ∧ first.column = second.column ↔ first = second
  display_eq : first.display = second.display ↔ first = second

theorem lt_iff : first < second ↔ first.offset < second.offset ∨
    first.offset = second.offset ∧ first.ShownBefore second :=
  Iff.rfl

theorem eq_iff : first = second ↔ first.offset = second.offset ∧
    first.line = second.line ∧ first.column = second.column := by
  cases first
  cases second
  rw [mk.injEq]

/-- Places compare alike if they are the same, or if one comes before the other in bytes and in what
is displayed. -/
theorem comparedAlike_of_cases
    (cases : first = second ∨ first.offset < second.offset ∧ first.ShownBefore second ∨
      second.offset < first.offset ∧ second.ShownBefore first) : ComparedAlike first second := by
  have le_iff : first ≤ second ↔ first < second ∨ first = second := Iff.rfl
  rw [eq_iff] at cases
  unfold ShownBefore at cases
  constructor
  case offset_lt =>
    rw [lt_iff, ShownBefore]
    omega
  case shown_lt =>
    rw [lt_iff, ShownBefore]
    omega
  case offset_le =>
    rw [le_iff, lt_iff, eq_iff, ShownBefore]
    omega
  case offset_eq =>
    rw [eq_iff]
    omega
  case shown_eq =>
    rw [eq_iff]
    omega
  case display_eq =>
    rw [display_eq_iff, eq_iff]
    omega

theorem Reached.comparedAlike {source : Text} (reached : Reached source first)
    (other : Reached source second) : ComparedAlike first second := by
  apply comparedAlike_of_cases
  rcases reached.cases other with same | ⟨text, some, rfl⟩ | ⟨text, some, rfl⟩
  · exact Or.inl same
  · exact Or.inr (Or.inl ⟨offset_lt_after some first, shownBefore_after some first⟩)
  · exact Or.inr (Or.inr ⟨offset_lt_after some second, shownBefore_after some second⟩)

end Position

/-! ## Places of items -/

theorem Item.fst_span (item : Item) : item.span.1 = item.start.offset := by
  cases item <;> rfl

/-- All items of a source begin at different bytes. -/
theorem pairwise_offset_lt (config : Config) (source : Text) :
    (tokenize config source).Pairwise fun first second =>
      first.start.offset < second.start.offset := by
  have ordered := pairwise_start_lt config source
  obtain ⟨inner, same, others⟩ := exists_itemsFrom config .start source
  rw [tokenize_eq_itemsFrom, same, List.pairwise_append] at ordered ⊢
  obtain ⟨front, -, closing⟩ := ordered
  refine ⟨?_, List.pairwise_singleton _ _, ?_⟩
  · refine front.imp_of_mem ?_
    intro first second member _ earlier
    rw [← Item.fst_span, ← Item.fst_span]
    exact earlier (others first member)
  · intro first member last isLast
    rw [← Item.fst_span, ← Item.fst_span]
    exact closing first member last isLast (others first member)

/-- Whether the places of a source compare alike in all ways, those of its items among them, so that
no two items are displayed at one place. -/
structure PlacesInOrder (config : Config) (source : Text) : Prop where
  alike : ∀ first second : Position, first.Reached source → second.Reached source →
    first.ComparedAlike second
  starts : ∀ item ∈ tokenize config source, item.start.Reached source
  stops : ∀ token, .token token ∈ tokenize config source → token.stop.Reached source
  apart : (tokenize config source).Pairwise fun first second =>
    first.start.display ≠ second.start.display

/-- Under every configuration the places of every source are in order. -/
theorem placesInOrder_tokenize (config : Config) (source : Text) : PlacesInOrder config source := by
  have starts : ∀ item ∈ tokenize config source, item.start.Reached source := by
    intro item member
    exact Position.reached_iff.mpr (exists_start config source member)
  constructor
  case alike =>
    intro first second reached other
    exact reached.comparedAlike other
  case starts => exact starts
  case stops =>
    intro token member
    obtain ⟨before, behind, same, -, stop⟩ := exists_token_location config source member
    refine Position.reached_iff.mpr ⟨before ++ token.lexeme, behind, ?_, stop⟩
    rw [same, List.append_assoc]
  case apart =>
    refine (pairwise_offset_lt config source).imp_of_mem ?_
    intro first second member otherMember earlier shown
    have alike := (starts first member).comparedAlike (starts second otherMember)
    have same := alike.display_eq.mp shown
    rw [same] at earlier
    exact Nat.lt_irrefl _ earlier

end Munch
