import Munch.Proofs.Loops
import Munch.Proofs.Spans

/-! # Every pass ends

The calls on a stream give the items of its source one by one, and nothing more. A call before the
last passes at least one character, so a source has at most one item more than it has characters.
The closing item comes alone, last, and as soon as only trivia is ahead, and behind it a stream
stands still. Within a call the loops of the readers end, and trivia is passed at most once. -/
set_option autoImplicit false

namespace Munch

def Cursor.Advances (before behind : Cursor) : Prop :=
  ∃ passed, passed ≠ [] ∧ before.rest = passed ++ behind.rest ∧
    behind.position = before.position.after passed

/-! ## Calls on a stream -/

namespace Stream

def after (stream : Stream) : Nat → Stream
  | 0 => stream
  | calls + 1 => (stream.after calls).next.2

theorem next_finished {stream : Stream} (finished : stream.finished = true) :
    stream.next = (none, stream) := by
  simp [next, finished]

theorem fst_next (stream : Stream) : stream.next.1 = stream.items.head? := by
  cases finished : stream.finished with
  | true =>
    rw [next_finished finished, items_eq_nil_iff.mpr finished]
    rfl
  | false =>
    obtain ⟨item, behind, given, split, -⟩ := next_unfinished finished
    rw [given, split]
    rfl

theorem items_snd_next (stream : Stream) : stream.next.2.items = stream.items.tail := by
  cases finished : stream.finished with
  | true =>
    rw [next_finished finished, items_eq_nil_iff.mpr finished]
    rfl
  | false =>
    obtain ⟨item, behind, given, split, -⟩ := next_unfinished finished
    rw [given, split]
    rfl

theorem items_after (stream : Stream) (calls : Nat) :
    (stream.after calls).items = stream.items.drop calls := by
  induction calls with
  | zero => rfl
  | succ calls ih => rw [after, items_snd_next, ih, List.tail_drop]

theorem next_after (stream : Stream) (calls : Nat) :
    (stream.after calls).next.1 = stream.items[calls]? := by
  rw [fst_next, items_after, List.head?_drop]

theorem next_after_finished {stream : Stream} {calls : Nat} (all : stream.items.length ≤ calls) :
    (stream.after calls).next = (none, stream.after calls) := by
  apply next_finished
  rw [← items_eq_nil_iff, items_after]
  exact List.drop_of_length_le all

theorem unfinished_of_next {stream : Stream} {item : Item} (given : stream.next.1 = some item) :
    stream.finished = false := by
  rw [← Bool.not_eq_true]
  intro finished
  rw [next_finished finished] at given
  contradiction

/-- What a call gives is the closing item where only trivia is ahead, and otherwise it is read behind
at least one character. -/
theorem next_cases {stream : Stream} {item : Item} (given : stream.next.1 = some item) :
    item.isEnd = true ∧ TriviaBefore [] stream.cursor.rest ∨
      item.isEnd = false ∧ ¬ TriviaBefore [] stream.cursor.rest ∧
        stream.cursor.Advances stream.next.2.cursor := by
  have going := unfinished_of_next given
  rcases exists_step stream.config stream.cursor.rest with trivia | ⟨gap, lexeme, behind, same, step⟩
  · rw [next_closing going trivia] at given
    cases given
    exact Or.inl ⟨rfl, triviaBefore_nil_iff.mpr trivia⟩
  · obtain ⟨left, next, rest, stop⟩ := next_step going step same
    rw [next] at given
    cases given
    refine Or.inr ⟨step.isEnd_between _ _, ?_, gap ++ lexeme.text, ?_, ?_, ?_⟩
    · intro trivia
      have whole := triviaBefore_nil_iff.mp trivia
      rw [same, step.trivia] at whole
      have none := List.append_eq_nil_iff.mp (List.self_eq_append_right.mp whole)
      exact step.some none.1
    · simp [step.some]
    · rw [next, cursor_give, rest, same, List.append_assoc]
    · rw [next, cursor_give, stop, Position.after_append]

end Stream

theorem items_ofText (config : Config) (source : Text) :
    (Stream.ofText config source).items = tokenize config source :=
  (tokenize_eq_itemsFrom config source).symm

/-! ## How many items there are -/

theorem length_itemsFrom_le (config : Config) (place : Position) (text : Text) :
    (itemsFrom config place text).length ≤ text.length + 1 := by
  induction text using pass_induction config generalizing place with
  | closing gap trivia =>
    rw [itemsFrom_closing config place trivia, List.length_singleton]
    omega
  | step gap lexeme behind step ih =>
    have length := List.length_pos_iff.mpr step.some
    have later := ih ((place.after gap).after lexeme.text)
    rw [itemsFrom_step place step]
    simp only [List.length_cons, List.length_append]
    omega

theorem exists_itemsFrom (config : Config) (place : Position) (text : Text) :
    ∃ inner, itemsFrom config place text = inner ++ [.closing (place.after text)] ∧
      ∀ item ∈ inner, item.isEnd = false := by
  induction text using pass_induction config generalizing place with
  | closing gap trivia =>
    rw [itemsFrom_closing config place trivia]
    exact ⟨[], rfl, by simp⟩
  | step gap lexeme behind step ih =>
    obtain ⟨inner, same, others⟩ := ih ((place.after gap).after lexeme.text)
    refine ⟨lexeme.between (place.after gap) ((place.after gap).after lexeme.text) :: inner, ?_, ?_⟩
    · rw [itemsFrom_step place step, same, List.cons_append, Position.after_append,
        Position.after_append]
    · intro item member
      rcases List.mem_cons.mp member with rfl | later
      · exact step.isEnd_between _ _
      · exact others item later

/-! ## The ends of a pass -/

theorem Cursor.nextItem_of_atBlank (config : Config) {cursor : Cursor}
    (blank : cursor.atBlank = true) :
    cursor.nextItem config = cursor.skipTrivia.nextItem config := by
  rw [nextItem_skipTrivia, nextItem, if_pos blank]

/-- Whether a pass over a source ends, with all that goes on in it: the calls on the stream, the calls
that one call makes, and the loops of the readers. -/
structure PassEnds (config : Config) (source : Text) : Prop where
  given : ∀ calls, ((Stream.ofText config source).after calls).next.1 =
    (tokenize config source)[calls]?
  bounded : (tokenize config source).length ≤ source.length + 1
  progress : ∀ calls item, ((Stream.ofText config source).after calls).next.1 = some item →
    item.isEnd = false → ((Stream.ofText config source).after calls).cursor.Advances
      ((Stream.ofText config source).after (calls + 1)).cursor
  closing : ∃ inner, tokenize config source =
    inner ++ [.closing (Position.start.after source)] ∧ ∀ item ∈ inner, item.isEnd = false
  onlyTrivia : ∀ calls item, ((Stream.ofText config source).after calls).next.1 = some item →
    (item.isEnd = true ↔ TriviaBefore [] ((Stream.ofText config source).after calls).cursor.rest)
  still : ∀ calls, (tokenize config source).length ≤ calls →
    ((Stream.ofText config source).after calls).next =
      (none, (Stream.ofText config source).after calls)
  passesTriviaOnce : ∀ cursor : Cursor, cursor.atBlank = true →
    cursor.nextItem config = cursor.skipTrivia.nextItem config ∧ cursor.skipTrivia.atBlank = false
  classLoop : ∀ test, LoopEnds (ClassTurn test) fun text => text.drop (text.takeWhile test).length
  triviaLoop : LoopEnds TriviaTurn fun text => text.drop (leadingTrivia text).length
  gluedLoop : LoopEnds Number.GluedTurn fun text => text.drop (Number.gluedPart text).length
  bodyLoop : LoopEnds StringLiteral.BodyTurn fun text => text.drop (StringLiteral.body text).length

/-- Under every configuration the pass over every source ends. -/
theorem passEnds_tokenize (config : Config) (source : Text) : PassEnds config source where
  given := by
    intro calls
    rw [Stream.next_after, items_ofText]
  bounded := by
    rw [tokenize_eq_itemsFrom]
    exact length_itemsFrom_le config .start source
  progress := by
    intro calls item given inner
    rcases Stream.next_cases given with ⟨closes, -⟩ | ⟨-, -, advances⟩
    · rw [closes] at inner
      contradiction
    · exact advances
  closing := by
    rw [tokenize_eq_itemsFrom]
    exact exists_itemsFrom config .start source
  onlyTrivia := by
    intro calls item given
    rcases Stream.next_cases given with ⟨closes, trivia⟩ | ⟨inner, code, -⟩
    · exact ⟨fun _ => trivia, fun _ => closes⟩
    · rw [inner]
      exact ⟨fun closes => by contradiction, fun trivia => absurd trivia code⟩
  still := by
    intro calls all
    apply Stream.next_after_finished
    rw [items_ofText]
    exact all
  passesTriviaOnce := by
    intro cursor blank
    exact ⟨cursor.nextItem_of_atBlank config blank, cursor.atBlank_skipTrivia⟩
  classLoop := loopEnds_class
  triviaLoop := loopEnds_trivia
  gluedLoop := Number.loopEnds_glued
  bodyLoop := StringLiteral.loopEnds_body

end Munch
