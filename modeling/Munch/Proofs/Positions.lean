import Mathlib.Data.List.Induction
import Munch.Proofs.Calls
import Munch.Proofs.Lines

/-! # Places are exact

A pass moves three counters with every character. What they should be at a byte offset is said by
`Text.placeAt?` without moving anything: it counts the line feeds before the offset and the
characters behind the last of them. All places of items, and those of cursors after any calls, are
the places of their offsets. No offset falls inside a character, since there is no place there. -/
set_option autoImplicit false

namespace Munch

/-- The place of a byte offset, counted in the text before it: a line more for each line feed, and a
column more for each character behind the last one. There is none inside a character or behind the
end. -/
def Text.placeAt? (source : Text) (offset : Nat) : Option Position :=
  (source.takeBytes offset).map fun before =>
    ⟨offset, 1 + before.count '\n', 1 + (before.reverse.takeWhile (· != '\n')).length⟩

namespace Position

theorem column_start_after (text : Text) :
    (start.after text).column = 1 + (text.reverse.takeWhile (· != '\n')).length := by
  induction text using List.reverseRecOn with
  | nil => rfl
  | append_singleton text char ih =>
    rw [after_append, after_cons, after_nil, List.reverse_append, List.reverse_singleton,
      List.singleton_append, advance]
    by_cases feed : char = '\n'
    · subst feed
      rfl
    · rw [if_neg feed, List.takeWhile_cons_of_pos (by simpa using feed), List.length_cons, ih]
      rfl

theorem start_after (text : Text) : start.after text =
    ⟨text.utf8Length, 1 + text.count '\n', 1 + (text.reverse.takeWhile (· != '\n')).length⟩ := by
  have bytes := offset_start_after text
  have lines := line_after start text
  have columns := column_start_after text
  rw [mk.injEq]
  exact ⟨bytes, lines, columns⟩

theorem after_of_not_mem {text : Text} (inLine : '\n' ∉ text) (place : Position) :
    (place.after text).line = place.line ∧
      (place.after text).column = place.column + text.length := by
  induction text generalizing place with
  | nil => exact ⟨rfl, rfl⟩
  | cons char rest ih =>
    obtain ⟨different, later⟩ := List.ne_and_not_mem_of_not_mem_cons inLine
    obtain ⟨line, column⟩ := ih later (place.advance char)
    have step : place.advance char =
        ⟨place.offset + char.utf8Size, place.line, place.column + 1⟩ := if_neg different.symm
    simp only [step] at line column
    rw [after_cons, step, line, column, List.length_cons]
    exact ⟨rfl, Nat.add_right_comm ..⟩

end Position

namespace Text

theorem takeBytes_eq_some_iff {source before : Text} {offset : Nat} :
    source.takeBytes offset = some before ↔
      ∃ behind, source = before ++ behind ∧ offset = before.utf8Length := by
  constructor
  · intro taken
    induction source generalizing offset before with
    | nil =>
      cases offset with
      | zero =>
        cases taken
        exact ⟨[], rfl, rfl⟩
      | succ bytes => simp [takeBytes] at taken
    | cons char rest ih =>
      cases offset with
      | zero =>
        cases taken
        exact ⟨char :: rest, rfl, rfl⟩
      | succ bytes =>
        rw [takeBytes] at taken
        split at taken
        · rename_i fits
          obtain ⟨inside, later, rfl⟩ := Option.map_eq_some_iff.mp taken
          obtain ⟨behind, same, left⟩ := ih later
          refine ⟨behind, by rw [same, List.cons_append], ?_⟩
          rw [utf8Length_cons]
          omega
        · contradiction
  · rintro ⟨behind, rfl, rfl⟩
    exact takeBytes_append before behind

/-- An offset has a place if the source splits there, and then it is the place to which the text
before it leads. -/
theorem placeAt?_eq_some_iff {source : Text} {offset : Nat} {place : Position} :
    source.placeAt? offset = some place ↔ ∃ before behind, source = before ++ behind ∧
      offset = before.utf8Length ∧ place = Position.start.after before := by
  rw [placeAt?, Option.map_eq_some_iff]
  constructor
  · rintro ⟨before, taken, rfl⟩
    obtain ⟨behind, same, rfl⟩ := takeBytes_eq_some_iff.mp taken
    exact ⟨before, behind, same, rfl, (Position.start_after before).symm⟩
  · rintro ⟨before, behind, same, rfl, rfl⟩
    refine ⟨before, takeBytes_eq_some_iff.mpr ⟨behind, same, rfl⟩, ?_⟩
    exact (Position.start_after before).symm

theorem placeAt?_offset {source before behind : Text} (same : source = before ++ behind)
    {place : Position} (leads : place = Position.start.after before) :
    source.placeAt? place.offset = some place := by
  refine placeAt?_eq_some_iff.mpr ⟨before, behind, same, ?_, leads⟩
  rw [leads, Position.offset_start_after]

end Text

/-! ## Places of items -/

/-- Every token of a source stands in it between the places to which the texts before and behind it
lead. -/
theorem exists_token_location (config : Config) (source : Text) {token : Token}
    (member : .token token ∈ tokenize config source) :
    ∃ before behind, source = before ++ (token.lexeme ++ behind) ∧
      token.start = Position.start.after before ∧
      token.stop = Position.start.after (before ++ token.lexeme) := by
  rw [tokenize_eq_itemsFrom] at member
  rcases mem_itemsFrom config .start source member with
    same | ⟨passed, gap, lexeme, behind, split, -, same⟩
  · cases same
    exact ⟨source, [], (List.append_nil source).symm, rfl, by rw [List.append_nil]⟩
  · obtain ⟨rfl, start, stop⟩ := Lexeme.of_between_eq_token same.symm
    refine ⟨passed ++ gap, behind, ?_, start, ?_⟩
    · rw [split, List.append_assoc]
    · rw [stop, ← Position.after_append]

theorem exists_start (config : Config) (source : Text) {item : Item}
    (member : item ∈ tokenize config source) :
    ∃ before behind, source = before ++ behind ∧ item.start = Position.start.after before := by
  cases item with
  | token token =>
    obtain ⟨before, behind, same, start, -⟩ := exists_token_location config source member
    exact ⟨before, token.lexeme ++ behind, same, start⟩
  | error error =>
    rw [tokenize_eq_itemsFrom] at member
    obtain ⟨passed, gap, lexeme, behind, split, -, same⟩ :=
      exists_of_mem_itemsFrom config .start source member rfl
    refine ⟨passed ++ gap, lexeme.text ++ behind, ?_, ?_⟩
    · rw [split, List.append_assoc]
    · rw [same, Lexeme.start_between]

/-- The item that closes a pass stands at the end of the source. -/
theorem eq_closing_of_isEnd (config : Config) (source : Text) {item : Item}
    (member : item ∈ tokenize config source) (closes : item.isEnd = true) :
    item = .closing (Position.start.after source) := by
  rw [tokenize_eq_itemsFrom] at member
  rcases mem_itemsFrom config .start source member with
    same | ⟨passed, gap, lexeme, behind, -, step, same⟩
  · exact same
  · rw [same, step.isEnd_between] at closes
    contradiction

/-- Whether the places of all items of a source, and of all cursors that are moved in it, are those
of their byte offsets. -/
structure ExactPlaces (config : Config) (source : Text) : Prop where
  start : ∀ item ∈ tokenize config source, source.placeAt? item.start.offset = some item.start
  stop : ∀ token, .token token ∈ tokenize config source →
    source.placeAt? (token.start.offset + token.lexeme.utf8Length) = some token.stop
  inLine : ∀ token, .token token ∈ tokenize config source →
    token.stop.line = token.start.line ∧
      token.stop.column = token.start.column + token.lexeme.length
  closing : ∀ token, .token token ∈ tokenize config source → token.isEnd = true →
    source.placeAt? source.utf8Length = some token.start ∧ token.stop = token.start
  boundaries : ∀ item ∈ tokenize config source,
    (source.placeAt? item.span.1).isSome ∧ (source.placeAt? item.span.2).isSome
  cursor : ∀ calls, source.placeAt? ((Cursor.ofText source).callAll calls).position.offset =
    some ((Cursor.ofText source).callAll calls).position

/-- Under every configuration, all places of every source are exact. -/
theorem exactPlaces_tokenize (config : Config) (source : Text) : ExactPlaces config source where
  start := by
    intro item member
    obtain ⟨before, behind, same, start⟩ := exists_start config source member
    exact Text.placeAt?_offset same start
  stop := by
    intro token member
    obtain ⟨before, behind, same, start, stop⟩ := exists_token_location config source member
    refine Text.placeAt?_eq_some_iff.mpr ⟨before ++ token.lexeme, behind, ?_, ?_, stop⟩
    · rw [same, List.append_assoc]
    · rw [start, Position.offset_start_after, Text.utf8Length_append]
  inLine := by
    intro token member
    obtain ⟨before, behind, -, start, stop⟩ := exists_token_location config source member
    have inLine : '\n' ∉ token.lexeme := newline_not_mem_text config source member
    rw [stop, start, Position.after_append]
    exact Position.after_of_not_mem inLine _
  closing := by
    intro token member closes
    have same : Item.token token = .closing (Position.start.after source) :=
      eq_closing_of_isEnd config source member closes
    cases same
    refine ⟨?_, rfl⟩
    exact Text.placeAt?_eq_some_iff.mpr ⟨source, [], (List.append_nil source).symm, rfl, rfl⟩
  boundaries := by
    intro item member
    rw [tokenize_eq_itemsFrom] at member
    obtain ⟨before, behind, same, span, -, -⟩ := exists_location config .start source member
    have zero : Position.start.offset = 0 := rfl
    rw [zero, Nat.zero_add] at span
    rw [span]
    constructor
    · exact Option.isSome_of_mem
        (Text.placeAt?_eq_some_iff.mpr ⟨before, item.text ++ behind, same, rfl, rfl⟩)
    · refine Option.isSome_of_mem
        (Text.placeAt?_eq_some_iff.mpr ⟨before ++ item.text, behind, ?_, ?_, rfl⟩)
      · rw [same, List.append_assoc]
      · rw [Text.utf8Length_append]
  cursor := by
    intro calls
    obtain ⟨composed, placed⟩ := (Cursor.within_ofText source).callAll calls
    exact Text.placeAt?_offset composed.symm placed

end Munch
