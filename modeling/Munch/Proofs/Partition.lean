import Munch.Proofs.Spans

/-! # The items of a source partition it

The spans of the items follow one another without overlap, each covers its own text, and what lies
between them is blanks and comments. So the source is its gaps and its items in turn, and nothing
that is not trivia is passed over. -/
set_option autoImplicit false

namespace Munch

/-- Whether what lies before each item, from a byte offset on, is trivia, where a comment may run up
to whatever follows in the source. -/
def TriviaGaps (source : Text) : Nat → List Item → Prop
  | _, [] => True
  | offset, item :: rest =>
    (∃ gap behind, source.slice offset item.span.1 = some gap ∧
      source.dropBytes item.span.1 = some behind ∧ TriviaBefore behind gap) ∧
    TriviaGaps source item.span.2 rest

/-- The gaps of a source from a byte offset on, each with the text of the item behind it. -/
def rebuild (source : Text) : Nat → List Item → Option Text
  | _, [] => some []
  | offset, item :: rest =>
    (source.slice offset item.span.1).bind fun gap =>
      (rebuild source item.span.2 rest).map fun later => gap ++ (item.text ++ later)

/-- Items that cover a source but for trivia. -/
structure Partition (source : Text) (items : List Item) : Prop where
  ordered : items.Pairwise fun first second => first.span.2 ≤ second.span.1
  covers : ∀ item ∈ items, source.slice item.span.1 item.span.2 = some item.text
  nonempty : ∀ item ∈ items, item.isEnd = false → item.text ≠ []
  closing : ∀ item ∈ items, item.isEnd = true →
    item.text = [] ∧ item.span = (source.utf8Length, source.utf8Length)
  gaps : TriviaGaps source 0 items
  rebuilds : rebuild source 0 items = some source

theorem pairwise_itemsFrom (config : Config) (place : Position) (text : Text) :
    (itemsFrom config place text).Pairwise fun first second => first.span.2 ≤ second.span.1 := by
  induction text using pass_induction config generalizing place with
  | closing gap trivia =>
    rw [itemsFrom_closing config place trivia]
    exact List.pairwise_singleton _ _
  | step gap lexeme behind step ih =>
    rw [itemsFrom_step place step]
    refine List.pairwise_cons.mpr ⟨?_, ih _⟩
    intro later member
    obtain ⟨passed, rest, -, span, -, -⟩ := exists_location config _ behind member
    rw [Lexeme.span_between, span]
    simp only [Position.offset_after]
    exact Nat.le_add_right _ _

section Source

variable (config : Config) {before : Text} {place : Position}

theorem slice_gap (starts : place.offset = before.utf8Length) (gap ahead : Text) :
    Text.slice (before ++ (gap ++ ahead)) place.offset (place.after gap).offset = some gap := by
  rw [Position.offset_after, starts]
  exact Text.slice_append before gap ahead

theorem dropBytes_gap (starts : place.offset = before.utf8Length) (gap ahead : Text) :
    Text.dropBytes (place.after gap).offset (before ++ (gap ++ ahead)) = some ahead := by
  rw [Position.offset_after, starts, ← Text.utf8Length_append, ← List.append_assoc]
  exact Text.dropBytes_append (before ++ gap) ahead

theorem triviaGaps_itemsFrom (starts : place.offset = before.utf8Length) (text : Text) :
    TriviaGaps (before ++ text) place.offset (itemsFrom config place text) := by
  induction text using pass_induction config generalizing place before with
  | closing gap trivia =>
    have slice := slice_gap starts gap []
    have rest := dropBytes_gap starts gap []
    rw [List.append_nil] at slice rest
    rw [itemsFrom_closing config place trivia]
    exact ⟨⟨gap, [], slice, rest, .of_closing trivia⟩, True.intro⟩
  | step gap lexeme behind step ih =>
    have later : ((place.after gap).after lexeme.text).offset =
        (before ++ (gap ++ lexeme.text)).utf8Length := by
      simp only [Position.offset_after, starts, Text.utf8Length_append, Nat.add_assoc]
    have gaps := ih later
    simp only [List.append_assoc] at gaps
    rw [itemsFrom_step place step]
    refine ⟨⟨gap, lexeme.text ++ behind, ?_, ?_, .of_leadingTrivia step.trivia⟩, ?_⟩
    · rw [Lexeme.span_between]
      exact slice_gap starts gap (lexeme.text ++ behind)
    · rw [Lexeme.span_between]
      exact dropBytes_gap starts gap (lexeme.text ++ behind)
    · rw [Lexeme.span_between, ← Position.offset_after]
      exact gaps

theorem rebuild_itemsFrom (starts : place.offset = before.utf8Length) (text : Text) :
    rebuild (before ++ text) place.offset (itemsFrom config place text) = some text := by
  induction text using pass_induction config generalizing place before with
  | closing gap trivia =>
    have slice := slice_gap starts gap []
    rw [List.append_nil] at slice
    rw [itemsFrom_closing config place trivia]
    show (Text.slice (before ++ gap) place.offset (place.after gap).offset).bind _ = some gap
    rw [slice]
    simp [rebuild, Item.closing, Item.text]
  | step gap lexeme behind step ih =>
    have later : ((place.after gap).after lexeme.text).offset =
        (before ++ (gap ++ lexeme.text)).utf8Length := by
      simp only [Position.offset_after, starts, Text.utf8Length_append, Nat.add_assoc]
    have rest := ih later
    simp only [List.append_assoc] at rest
    rw [itemsFrom_step place step, rebuild, Lexeme.span_between, ← Position.offset_after,
      slice_gap starts gap (lexeme.text ++ behind), rest]
    simp

end Source

/-- The items of every source partition it. -/
theorem partition_tokenize (config : Config) (source : Text) :
    Partition source (tokenize config source) := by
  rw [tokenize_eq_itemsFrom]
  have starts : Position.start.offset = Text.utf8Length [] := rfl
  refine ⟨pairwise_itemsFrom config .start source, ?_, ?_, ?_, ?_, ?_⟩
  · intro item member
    obtain ⟨passed, behind, same, span, -, -⟩ := exists_location config .start source member
    have zero : Position.start.offset = 0 := rfl
    rw [span, same, zero, Nat.zero_add]
    exact Text.slice_append passed item.text behind
  · intro item member
    obtain ⟨_, _, -, -, visible, -⟩ := exists_location config .start source member
    exact visible
  · intro item member closes
    obtain ⟨passed, behind, same, span, -, last⟩ := exists_location config .start source member
    obtain ⟨empty, rfl⟩ := last closes
    refine ⟨empty, ?_⟩
    rw [span, same, empty]
    simp [Position.start]
  · exact triviaGaps_itemsFrom config starts source
  · exact rebuild_itemsFrom config starts source

end Munch
