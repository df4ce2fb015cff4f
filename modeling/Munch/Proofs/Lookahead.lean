import Munch.Proofs.Seams
import Munch.Proofs.Spans

/-! # Lookahead

No reader looks further than two characters behind what it takes: two for the fraction of a number,
one everywhere else. So two sources that begin with the same text have the same items as far as
these end two characters before the end of that text, whatever follows it. -/
set_option autoImplicit false

namespace Munch

/-- Whether an item ends at least two characters before the end of a text at the front of its
source. -/
def Item.EndsWithin (front : Text) (item : Item) : Prop :=
  ∃ inner margin, front = inner ++ margin ∧ 2 ≤ margin.length ∧
    item.span.2 = Text.utf8Length inner

/-! ## Two characters decide a step -/

/-- A step is the same before two texts that have their first two characters in common. -/
theorem Step.before_other {config : Config} {gap : Text} {lexeme : Lexeme} {margin first : Text}
    (step : Step config gap lexeme (margin ++ first)) (clear : 2 ≤ margin.length) (second : Text) :
    Step config gap lexeme (margin ++ second) := by
  have some : margin ≠ [] := by
    rintro rfl
    contradiction
  have more : margin ≠ ['.'] := by
    rintro rfl
    contradiction
  refine step.elsewhere ?_ ?_ ?_
  · apply (TriviaBefore.of_leadingTrivia step.trivia).elsewhere
    rw [Text.begins_append _ step.some, Text.begins_append _ step.some]
    exact id
  · have alone := (Lexeme.stopsAt_append config lexeme some more first).mp step.stops
    exact (Lexeme.stopsAt_append config lexeme some more second).mpr alone
  · intro slash
    have apart := step.apart slash
    rw [Text.begins_append _ some] at apart ⊢
    exact apart

/-- No item behind a step ends before the step does. -/
theorem Step.stop_le_of_mem {config : Config} {gap : Text} {lexeme : Lexeme} {behind : Text}
    (step : Step config gap lexeme behind) (place : Position) {item : Item}
    (member : item ∈ itemsFrom config place (gap ++ (lexeme.text ++ behind))) :
    place.offset + (gap ++ lexeme.text).utf8Length ≤ item.span.2 := by
  have stop : ((place.after gap).after lexeme.text).offset =
      place.offset + (gap ++ lexeme.text).utf8Length := by
    rw [← Position.after_append, Position.offset_after]
  rw [itemsFrom_step place step] at member
  rcases List.mem_cons.mp member with rfl | later
  · rw [Lexeme.span_between, ← stop]
    exact Nat.le_of_eq (Position.offset_after _ _)
  · obtain ⟨passed, _, -, span, -, -⟩ := exists_location config _ behind later
    rw [span, stop]
    omega

/-! ## Passes over two sources with the same front -/

theorem take_itemsFrom_isPrefix {config : Config} {text inner margin first : Text}
    (same : text = inner ++ (margin ++ first)) (clear : 2 ≤ margin.length) (second : Text)
    {place : Position} {index : Nat} {item : Item}
    (given : (itemsFrom config place text)[index]? = some item)
    (ends : item.span.2 = place.offset + inner.utf8Length) :
    (itemsFrom config place text).take (index + 1) <+:
      itemsFrom config place (inner ++ (margin ++ second)) := by
  induction text using pass_induction config generalizing place inner index with
  | closing gap trivia =>
    -- The closing item would have to end before the margin, but it stands behind it.
    have member := List.mem_of_getElem? given
    rw [itemsFrom_closing config place trivia, List.mem_singleton] at member
    have stop : item.span.2 = place.offset + gap.utf8Length := by
      rw [member, ← Position.offset_after]
      rfl
    have some : margin ≠ [] := by
      rintro rfl
      contradiction
    have bytes := Text.utf8Length_pos some
    rw [ends, same, Text.utf8Length_append, Text.utf8Length_append] at stop
    omega
  | step gap lexeme behind step ih =>
    have reached := step.stop_le_of_mem place (List.mem_of_getElem? given)
    have fewer : (gap ++ lexeme.text).utf8Length ≤ inner.utf8Length := by omega
    rw [← List.append_assoc] at same
    obtain ⟨middle, rfl, rfl⟩ := Text.exists_append_of_utf8Length_le same fewer
    have far : 2 ≤ (middle ++ margin).length := by
      rw [List.length_append]
      omega
    have here : Step config gap lexeme (middle ++ margin ++ first) := by
      rw [List.append_assoc]
      exact step
    have there := here.before_other far second
    simp only [List.append_assoc] at there ⊢
    rw [itemsFrom_step place step] at given ⊢
    rw [itemsFrom_step place there, List.take_succ_cons, List.cons_prefix_cons]
    refine ⟨rfl, ?_⟩
    cases index with
    | zero => exact List.nil_prefix
    | succ index =>
      refine ih rfl given ?_
      rw [ends, ← Position.after_append, Position.offset_after, Text.utf8Length_append]
      omega

/-- If an item ends two characters before the end of the text at the front of a source, another
source with that front begins with the same items up to that one, at the same places. -/
theorem take_tokenize_isPrefix (config : Config) (front first second : Text) (index : Nat)
    (item : Item) (given : (tokenize config (front ++ first))[index]? = some item)
    (clear : item.EndsWithin front) :
    (tokenize config (front ++ first)).take (index + 1) <+: tokenize config (front ++ second) := by
  obtain ⟨inner, margin, rfl, far, ends⟩ := clear
  rw [tokenize_eq_itemsFrom] at given ⊢
  rw [tokenize_eq_itemsFrom, List.append_assoc inner margin second]
  refine take_itemsFrom_isPrefix (List.append_assoc inner margin first) far second given ?_
  rw [ends]
  exact (Nat.zero_add _).symm

/-- The number at the front of `1.x` ends two characters before the end, so what is put behind the
`x` does not change it. -/
theorem take_tokenize_isPrefix_number :
    (tokenize .default (['1', '.', 'x'] ++ ['y']))[0]? =
      some (.token ⟨.integer ['1'], ['1'], ⟨0, 1, 1⟩, ⟨1, 1, 2⟩⟩) ∧
    (Item.token ⟨.integer ['1'], ['1'], ⟨0, 1, 1⟩, ⟨1, 1, 2⟩⟩).EndsWithin ['1', '.', 'x'] ∧
    (tokenize .default (['1', '.', 'x'] ++ ['y'])).take 1 <+:
      tokenize .default (['1', '.', 'x'] ++ ['"']) :=
  have given : (tokenize .default (['1', '.', 'x'] ++ ['y']))[0]? =
      some (.token ⟨.integer ['1'], ['1'], ⟨0, 1, 1⟩, ⟨1, 1, 2⟩⟩) := by decide +kernel
  have clear : (Item.token ⟨.integer ['1'], ['1'], ⟨0, 1, 1⟩, ⟨1, 1, 2⟩⟩).EndsWithin
      ['1', '.', 'x'] := ⟨['1'], ['.', 'x'], rfl, by decide, rfl⟩
  ⟨given, clear, take_tokenize_isPrefix .default ['1', '.', 'x'] ['y'] ['"'] 0 _ given clear⟩

/-- One character is not far enough: a digit behind `1.` makes the number longer. -/
example : (tokenize .default "1.".toList).map Item.text = ["1".toList, ".".toList, []] ∧
    (tokenize .default "1.5".toList).map Item.text = ["1.5".toList, []] := by
  decide +kernel

end Munch
