import Munch.Lexed
import Munch.Proofs.Boundaries
import Munch.Proofs.LeadingTrivia

/-! # A pass as a function of the text ahead

A stream carries a cursor, a report and two counters. Its items depend on none of them but the place
of the cursor and the text ahead: `itemsFrom` gives them by recursion on that text, and a source is
cut into `itemsFrom config .start source`. One step of the recursion, `Step`, is a gap of trivia and
a lexeme behind it; every law of whole passes is proved by `pass_induction` over these steps. -/
set_option autoImplicit false

namespace Munch

def Item.closing (place : Position) : Item := .token ⟨.endOfInput, [], place, place⟩

/-- What one step of a pass takes from the front of `gap ++ (lexeme.text ++ behind)`. -/
structure Step (config : Config) (gap : Text) (lexeme : Lexeme) (behind : Text) : Prop where
  trivia : leadingTrivia (gap ++ (lexeme.text ++ behind)) = gap
  front : Lexeme.atFront config (lexeme.text ++ behind) = lexeme
  some : lexeme.text ≠ []

theorem text_atFront_ne_nil_of_ne_nil (config : Config) {text : Text} (some : text ≠ []) :
    (Lexeme.atFront config text).text ≠ [] := by
  cases text with
  | nil => exact absurd rfl some
  | cons char rest => exact Lexeme.text_atFront_ne_nil config char rest

theorem Step.visible {config : Config} {gap : Text} {lexeme : Lexeme} {behind : Text}
    (step : Step config gap lexeme behind) : leadingTrivia (lexeme.text ++ behind) = [] := by
  have stop := leadingTrivia_drop (gap ++ (lexeme.text ++ behind))
  rw [step.trivia, List.drop_left] at stop
  exact stop

/-- A text is trivia throughout, or it has a step at its front. -/
theorem exists_step (config : Config) (text : Text) : leadingTrivia text = text ∨
    ∃ gap lexeme behind, text = gap ++ (lexeme.text ++ behind) ∧ Step config gap lexeme behind := by
  obtain ⟨ahead, same, -, -⟩ := exists_leadingTrivia text
  by_cases finished : ahead = []
  · subst finished
    rw [List.append_nil] at same
    exact Or.inl same.symm
  · obtain ⟨behind, splits⟩ := Lexeme.exists_atFront config ahead
    refine Or.inr ⟨leadingTrivia text, Lexeme.atFront config ahead, behind, ?_, ?_, ?_, ?_⟩
    · rw [← splits.composed, ← same]
    · rw [← splits.composed, ← same]
    · rw [← splits.composed]
    · exact text_atFront_ne_nil_of_ne_nil config finished

/-- A text that is trivia throughout is a case, and a text with a step at its front follows from
what that step leaves. -/
@[elab_as_elim]
theorem pass_induction (config : Config) {motive : Text → Prop} (text : Text)
    (closing : ∀ gap, leadingTrivia gap = gap → motive gap)
    (step : ∀ gap lexeme behind, Step config gap lexeme behind → motive behind →
      motive (gap ++ (lexeme.text ++ behind))) : motive text := by
  induction size : text.length using Nat.strongRecOn generalizing text with
  | ind size ih =>
    subst size
    rcases exists_step config text with trivia | ⟨gap, lexeme, behind, rfl, taken⟩
    · exact closing text trivia
    · apply step gap lexeme behind taken
      have shorter : behind.length < (gap ++ (lexeme.text ++ behind)).length := by
        have length := List.length_pos_iff.mpr taken.some
        simp only [List.length_append]
        omega
      exact ih behind.length shorter behind rfl

theorem length_behind_lt (config : Config) {text : Text} {char : Char} {rest : Text}
    (ahead : text.drop (leadingTrivia text).length = char :: rest) :
    ((char :: rest).drop (Lexeme.atFront config (char :: rest)).text.length).length <
      text.length := by
  have length := List.length_pos_iff.mpr (Lexeme.text_atFront_ne_nil config char rest)
  have fewer : (char :: rest).length ≤ text.length := by
    rw [← ahead, List.length_drop]
    omega
  simp only [List.length_drop, List.length_cons] at fewer ⊢
  omega

def itemsFrom (config : Config) (place : Position) (text : Text) : List Item :=
  let start := place.after (leadingTrivia text)
  match ahead : text.drop (leadingTrivia text).length with
  | [] => [.closing start]
  | char :: rest =>
    let lexeme := Lexeme.atFront config (char :: rest)
    let stop := start.after lexeme.text
    have := length_behind_lt config ahead
    lexeme.between start stop :: itemsFrom config stop ((char :: rest).drop lexeme.text.length)
termination_by text.length
decreasing_by assumption

theorem itemsFrom_closing (config : Config) (place : Position) {gap : Text}
    (trivia : leadingTrivia gap = gap) :
    itemsFrom config place gap = [.closing (place.after gap)] := by
  rw [itemsFrom]
  split
  · rw [trivia]
  · rename_i char rest ahead
    rw [trivia, List.drop_length] at ahead
    contradiction

theorem itemsFrom_step {config : Config} (place : Position) {gap : Text} {lexeme : Lexeme}
    {behind : Text} (step : Step config gap lexeme behind) :
    itemsFrom config place (gap ++ (lexeme.text ++ behind)) =
      lexeme.between (place.after gap) ((place.after gap).after lexeme.text) ::
        itemsFrom config ((place.after gap).after lexeme.text) behind := by
  rw [itemsFrom]
  split
  · rename_i ahead
    rw [step.trivia, List.drop_left] at ahead
    exact absurd (List.append_eq_nil_iff.mp ahead).1 step.some
  · rename_i char more ahead
    rw [step.trivia, List.drop_left] at ahead
    simp only [← ahead, step.trivia, step.front, List.drop_left]

theorem itemsFrom_ne_nil (config : Config) (place : Position) (text : Text) :
    itemsFrom config place text ≠ [] := by
  rcases exists_step config text with trivia | ⟨gap, lexeme, behind, rfl, step⟩
  · rw [itemsFrom_closing config place trivia]
    simp
  · rw [itemsFrom_step place step]
    simp

theorem itemsFrom_gap (config : Config) (place : Position) (text : Text) :
    itemsFrom config place text = itemsFrom config (place.after (leadingTrivia text))
      (text.drop (leadingTrivia text).length) := by
  rcases exists_step config text with trivia | ⟨gap, lexeme, behind, rfl, step⟩
  · rw [itemsFrom_closing config place trivia, trivia, List.drop_length,
      itemsFrom_closing config _ leadingTrivia_nil]
    rfl
  · rw [itemsFrom_step place step, step.trivia, List.drop_left]
    have later : Step config [] lexeme behind := ⟨step.visible, step.front, step.some⟩
    have same := itemsFrom_step (place.after gap) later
    exact same.symm

/-! ## What a step gives is not the end -/

theorem Lexical.ne_endOfInput {config : Config} {kind : Kind} {text : Text}
    (lexical : Lexical config kind text) : kind ≠ .endOfInput := by
  cases lexical with
  | word isWord =>
    rcases config.kindOf_cases text with same | ⟨_, same⟩ | ⟨_, same⟩ <;> simp [same]
  | integer isDigits => simp
  | floating isDigits isFraction => simp
  | string elements => simp
  | operator symbol => simp

theorem Step.formed {config : Config} {gap : Text} {lexeme : Lexeme} {behind : Text}
    (step : Step config gap lexeme behind) : lexeme.Formed config := by
  obtain ⟨_, splits⟩ := Lexeme.exists_atFront config (lexeme.text ++ behind)
  rw [step.front] at splits
  exact splits.formed

theorem Step.stops {config : Config} {gap : Text} {lexeme : Lexeme} {behind : Text}
    (step : Step config gap lexeme behind) : lexeme.StopsAt config behind := by
  obtain ⟨rest, splits⟩ := Lexeme.exists_atFront config (lexeme.text ++ behind)
  rw [step.front] at splits
  rw [List.append_cancel_left splits.composed]
  exact splits.stops

theorem Step.verdict_ne {config : Config} {gap : Text} {lexeme : Lexeme} {behind : Text}
    (step : Step config gap lexeme behind) : lexeme.verdict ≠ .token .endOfInput := by
  have some := step.some
  cases step.formed with
  | closing => exact absurd rfl some
  | token lexical => simpa using lexical.ne_endOfInput
  | malformed formed => simp
  | unterminated isOpen => simp
  | illegal nothing => simp

theorem Step.lexical {config : Config} {gap : Text} {kind : Kind} {text behind : Text}
    (step : Step config gap ⟨.token kind, text⟩ behind) : Lexical config kind text := by
  apply step.formed.lexical
  intro closing
  exact step.verdict_ne (congrArg Verdict.token closing)

theorem Step.isEnd_between {config : Config} {gap : Text} {lexeme : Lexeme} {behind : Text}
    (step : Step config gap lexeme behind) (start stop : Position) :
    (lexeme.between start stop).isEnd = false := by
  have inner := step.verdict_ne
  unfold Lexeme.between
  cases shape : lexeme.verdict with
  | token kind =>
    have different : kind ≠ .endOfInput := by
      rintro rfl
      exact inner shape
    simp [Item.isEnd, Token.isEnd, different]
  | error fault => rfl

/-! ## Streams -/

namespace Cursor

theorem rest_take_leadingTrivia (text : Text) :
    text.take (leadingTrivia text).length = leadingTrivia text :=
  (List.prefix_iff_eq_take.mp (Text.leading_isPrefix acceptTrivia false text)).symm

theorem position_skipTrivia (cursor : Cursor) :
    cursor.skipTrivia.position = cursor.position.after (leadingTrivia cursor.rest) := by
  rw [skipTrivia, position_advanceBy, rest_take_leadingTrivia]

/-- Behind the trivia of a cursor there is no more of it. -/
theorem leadingTrivia_skipTrivia (cursor : Cursor) : leadingTrivia cursor.skipTrivia.rest = [] := by
  rw [rest_skipTrivia]
  exact leadingTrivia_drop cursor.rest

theorem atBlank_skipTrivia (cursor : Cursor) : cursor.skipTrivia.atBlank = false := by
  have stops := cursor.leadingTrivia_skipTrivia
  rw [atBlank, peek]
  cases ahead : cursor.skipTrivia.rest with
  | nil => rfl
  | cons char rest =>
    rw [ahead] at stops
    exact not_isWhitespace_of_leadingTrivia stops

theorem nextItem_skipTrivia (config : Config) (cursor : Cursor) :
    cursor.skipTrivia.nextItem config = cursor.skipTrivia.itemHere config := by
  simp [nextItem, atBlank_skipTrivia]

/-- Where no blank is ahead, the next item is the lexeme at the front of the text. -/
theorem nextItem_visible (config : Config) {cursor : Cursor}
    (visible : cursor.rest.begins isWhitespace = false) :
    cursor.nextItem config =
      ((Lexeme.atFront config cursor.rest).between cursor.position
        (cursor.position.after (Lexeme.atFront config cursor.rest).text),
      cursor.advanceBy (Lexeme.atFront config cursor.rest).text.length) := by
  have noBlank : cursor.atBlank = false := visible
  have front := Lexeme.text_atFront_isPrefix config cursor.rest
  rw [nextItem, noBlank]
  simp only [Bool.false_eq_true, if_false, itemHere, position_advanceBy,
    ← List.prefix_iff_eq_take.mp front]

theorem itemHere_closing (config : Config) {cursor : Cursor} (finished : cursor.rest = []) :
    cursor.itemHere config = (.closing cursor.position, cursor) := by
  simp [itemHere, finished, Lexeme.between, Item.closing, advanceBy]

theorem itemHere_step {config : Config} {gap : Text} {lexeme : Lexeme} {behind : Text}
    (step : Step config gap lexeme behind) {cursor : Cursor}
    (ahead : cursor.rest = lexeme.text ++ behind) :
    (cursor.itemHere config).1 =
        lexeme.between cursor.position (cursor.position.after lexeme.text) ∧
      (cursor.itemHere config).2.rest = behind ∧
      (cursor.itemHere config).2.position = cursor.position.after lexeme.text := by
  have stop : (advanceBy lexeme.text.length cursor).position =
      cursor.position.after lexeme.text := by
    rw [position_advanceBy, ahead, List.take_left]
  have rest : (advanceBy lexeme.text.length cursor).rest = behind := by
    rw [rest_advanceBy, ahead, List.drop_left]
  simp only [itemHere, ahead, step.front]
  exact ⟨by rw [stop], rest, stop⟩

end Cursor

namespace Stream

def items (stream : Stream) : List Item :=
  if stream.finished then []
  else itemsFrom stream.config stream.cursor.position stream.cursor.rest

theorem config_give (stream : Stream) (item : Item) (behind : Cursor) :
    (stream.give item behind).config = stream.config := by
  unfold give
  repeat' split
  all_goals rfl

theorem errors_give (stream : Stream) (item : Item) (behind : Cursor) :
    (stream.give item behind).report.errors = stream.report.errors ++ item.error?.toList := by
  cases item with
  | token token =>
    simp only [give, Item.error?]
    split <;> simp
  | error error => simp [give, Item.error?]

theorem finished_give {stream : Stream} {item : Item} (inner : item.isEnd = false)
    (behind : Cursor) : (stream.give item behind).finished = stream.finished := by
  unfold give
  cases item with
  | token token =>
    have notEnd : token.isEnd = false := inner
    simp [notEnd]
  | error error => rfl

/-- Where only trivia is ahead, a call gives the closing item. -/
theorem next_closing {stream : Stream} (going : stream.finished = false)
    (trivia : leadingTrivia stream.cursor.rest = stream.cursor.rest) :
    stream.next = (some (.closing (stream.cursor.position.after stream.cursor.rest)),
      stream.give (.closing (stream.cursor.position.after stream.cursor.rest))
        stream.cursor.skipTrivia) := by
  have start := stream.cursor.position_skipTrivia
  have rest := stream.cursor.rest_skipTrivia
  rw [trivia] at start rest
  rw [List.drop_length] at rest
  have here := Cursor.itemHere_closing stream.config rest
  rw [start] at here
  simp [next, going, Cursor.nextItem_skipTrivia, here]

/-- Where a step is ahead, a call gives its item and leaves what is behind it. -/
theorem next_step {stream : Stream} (going : stream.finished = false) {gap : Text}
    {lexeme : Lexeme} {behind : Text} (step : Step stream.config gap lexeme behind)
    (ahead : stream.cursor.rest = gap ++ (lexeme.text ++ behind)) :
    ∃ left : Cursor, stream.next =
        (some (lexeme.between (stream.cursor.position.after gap) left.position),
          stream.give (lexeme.between (stream.cursor.position.after gap) left.position) left) ∧
      left.rest = behind ∧
      left.position = (stream.cursor.position.after gap).after lexeme.text := by
  have gapped : leadingTrivia stream.cursor.rest = gap := by rw [ahead, step.trivia]
  have start := stream.cursor.position_skipTrivia
  have rest := stream.cursor.rest_skipTrivia
  rw [gapped] at start rest
  rw [ahead, List.drop_left] at rest
  obtain ⟨item, left, stop⟩ := Cursor.itemHere_step step rest
  rw [start] at item stop
  refine ⟨_, ?_, left, stop⟩
  rw [stop, ← item]
  simp [next, going, Cursor.nextItem_skipTrivia]

/-- One call gives the first of the items that a stream still has, and records it if it is an
error. -/
theorem next_unfinished {stream : Stream} (going : stream.finished = false) :
    ∃ (item : Item) (behind : Stream), stream.next = (some item, behind) ∧
      stream.items = item :: behind.items ∧
      behind.report.errors = stream.report.errors ++ item.error?.toList := by
  have ahead : stream.items =
      itemsFrom stream.config stream.cursor.position stream.cursor.rest := by
    simp [items, going]
  rcases exists_step stream.config stream.cursor.rest with trivia | ⟨gap, lexeme, behind, same, step⟩
  · refine ⟨_, _, next_closing going trivia, ?_, errors_give _ _ _⟩
    have closes : ∀ place : Position, (Item.closing place).isEnd = true := fun _ => rfl
    rw [ahead, itemsFrom_closing _ _ trivia]
    simp [items, finished_give_of_isEnd (closes _)]
  · obtain ⟨left, given, rest, stop⟩ := next_step going step same
    refine ⟨_, _, given, ?_, errors_give _ _ _⟩
    rw [ahead, same, itemsFrom_step _ step, items, finished_give (step.isEnd_between _ _), going,
      config_give, cursor_give, rest, stop]
    rfl

theorem drainFrom_none {stream behind : Stream} (given : stream.next = (none, behind))
    (taken : List Item) : drainFrom taken stream = (taken.reverse, behind) := by
  rw [drainFrom]
  split
  · rename_i same
    rw [given] at same
    cases same
    rfl
  · rename_i same
    rw [given] at same
    cases same

theorem drainFrom_some {stream behind : Stream} {item : Item}
    (given : stream.next = (some item, behind)) (taken : List Item) :
    drainFrom taken stream = drainFrom (item :: taken) behind := by
  rw [drainFrom]
  split
  · rename_i same
    rw [given] at same
    cases same
  · rename_i same
    rw [given] at same
    cases same
    rfl

theorem items_eq_nil_iff {stream : Stream} : stream.items = [] ↔ stream.finished = true := by
  cases finished : stream.finished with
  | true => simp [items, finished]
  | false => simp [items, finished, itemsFrom_ne_nil]

/-- One call takes the first of the items that a stream still has off the others. -/
theorem next_of_items {stream : Stream} {item : Item} {rest : List Item}
    (ahead : stream.items = item :: rest) : ∃ behind : Stream, stream.next = (some item, behind) ∧
      behind.items = rest ∧ behind.report.errors = stream.report.errors ++ item.error?.toList := by
  have going : stream.finished = false := by
    rw [← Bool.not_eq_true, ← items_eq_nil_iff, ahead]
    exact List.cons_ne_nil item rest
  obtain ⟨first, behind, given, split, errors⟩ := next_unfinished going
  rw [ahead] at split
  obtain ⟨rfl, rfl⟩ := List.cons.inj split
  exact ⟨behind, given, rfl, errors⟩

/-- Drained, a stream gives the items that it still has and reports the errors among them. -/
theorem drainFrom_eq (stream : Stream) (taken : List Item) :
    (drainFrom taken stream).1 = taken.reverse ++ stream.items ∧
      (drainFrom taken stream).2.report.errors =
        stream.report.errors ++ stream.items.filterMap Item.error? := by
  -- Every call takes the first of the items still to come, so these carry the induction.
  induction ahead : stream.items generalizing stream taken with
  | nil =>
    have finished := items_eq_nil_iff.mp ahead
    have none : stream.next = (none, stream) := by simp [next, finished]
    rw [drainFrom_none none]
    simp
  | cons item rest ih =>
    obtain ⟨behind, given, later, errors⟩ := next_of_items ahead
    obtain ⟨all, report⟩ := ih behind (item :: taken) later
    rw [drainFrom_some given, all, report, errors]
    constructor
    · simp
    · cases item <;> simp [Item.error?, List.filterMap_cons]

end Stream

/-- A source is cut into the items of its text from the first place on. -/
theorem tokenize_eq_itemsFrom (config : Config) (source : Text) :
    tokenize config source = itemsFrom config .start source :=
  (Stream.drainFrom_eq (.ofText config source) []).1

theorem tokens_lex (config : Config) (source : Text) :
    (lex config source).tokens = (tokenize config source).filterMap Item.token? := rfl

theorem errors_lex (config : Config) (source : Text) :
    (lex config source).report.errors = (tokenize config source).filterMap Item.error? := by
  rw [tokenize_eq_itemsFrom]
  exact (Stream.drainFrom_eq (.ofText config source) []).2

end Munch
