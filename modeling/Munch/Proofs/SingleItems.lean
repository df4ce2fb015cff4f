import Munch.Proofs.Resynchronisation

/-! # Items by themselves

Where an item ends is decided by what is behind it, and nothing that may be behind an item decides
otherwise than the end of the text would. So the text of an item is a source of that one item: cut by
itself, it gives the same token or the same error at the start, and then the closing item. -/
set_option autoImplicit false

namespace Munch

/-- What was taken from a text is taken from its own text as well, and nothing is left. -/
theorem Step.alone {config : Config} {gap : Text} {lexeme : Lexeme} {behind : Text}
    (step : Step config gap lexeme behind) : Step config [] lexeme [] :=
  step.elsewhere .nil (Lexeme.stopsAt_nil config lexeme) fun _ => rfl

theorem itemsFrom_alone {config : Config} {gap : Text} {lexeme : Lexeme} {behind : Text}
    (step : Step config gap lexeme behind) (place : Position) :
    itemsFrom config place lexeme.text =
      [lexeme.between place (place.after lexeme.text), .closing (place.after lexeme.text)] := by
  have taken := itemsFrom_step place step.alone
  have closing := itemsFrom_closing config (place.after lexeme.text) leadingTrivia_nil
  simp only [List.nil_append, List.append_nil, Position.after_nil] at taken closing
  rw [taken, closing]

/-- Whether the text of an item, taken as a source, is cut to that item at the start and to the
closing one. Put back where the item stood, they are the item itself and the place where it stops. -/
structure Item.StandsAlone (config : Config) (item : Item) : Prop where
  alone : tokenize config item.text =
    [item.toLexeme.between .start (Position.start.after item.text),
      .closing (Position.start.after item.text)]
  putBack : (tokenize config item.text).map (Item.moved (Position.relocate item.start)) =
    [item, .closing item.stop]

/-- Under every configuration, every item of a source but the closing one stands alone. -/
theorem standsAlone_of_mem_tokenize (config : Config) (source : Text) {item : Item}
    (member : item ∈ tokenize config source) (inner : item.isEnd = false) :
    item.StandsAlone config := by
  rw [tokenize_eq_itemsFrom] at member
  obtain ⟨_, _, lexeme, _, -, step, rfl⟩ :=
    exists_of_mem_itemsFrom config .start source member inner
  constructor
  case alone =>
    rw [Lexeme.text_between, Lexeme.toLexeme_between, tokenize_eq_itemsFrom]
    exact itemsFrom_alone step .start
  case putBack =>
    rw [Lexeme.text_between, Lexeme.start_between, Lexeme.stop_between, tokenize_eq_itemsFrom,
      ← itemsFrom_relocate]
    exact itemsFrom_alone step _

/-- A number that is malformed under strict reading, behind a string that a backslash leaves open. -/
theorem standsAlone_of_mem_tokenize_malformed :
    Item.error ⟨.malformedNumber, ⟨4, 2, 2⟩, ['1', '.', '2', 'b']⟩ ∈
      tokenize (.build [.strictNumbers true]) ['"', '\\', '\n', ' ', '1', '.', '2', 'b', ';'] ∧
    Item.isEnd (.error ⟨.malformedNumber, ⟨4, 2, 2⟩, ['1', '.', '2', 'b']⟩) = false ∧
    Item.StandsAlone (.build [.strictNumbers true])
      (.error ⟨.malformedNumber, ⟨4, 2, 2⟩, ['1', '.', '2', 'b']⟩) :=
  have member : Item.error ⟨.malformedNumber, ⟨4, 2, 2⟩, ['1', '.', '2', 'b']⟩ ∈
      tokenize (.build [.strictNumbers true]) ['"', '\\', '\n', ' ', '1', '.', '2', 'b', ';'] := by
    decide +kernel
  ⟨member, rfl, standsAlone_of_mem_tokenize _ _ member rfl⟩

end Munch
