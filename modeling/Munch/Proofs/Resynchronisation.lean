import Mathlib.Data.List.Forall2
import Munch.Proofs.Positions
import Munch.Proofs.Spacing

/-! # Resynchronisation

A stream keeps nothing of what it has read but its place: behind an item, the rest of a source is cut
as if it stood by itself. So two sources that end with the same text, and in which an item ends where
that text begins, have the same items from there on. Their places differ by what stands before: by
its bytes, by its lines and, on the first line only, by its last column. -/
set_option autoImplicit false

namespace Munch

def Item.stop : Item → Position
  | .token found => found.stop
  | .error found => found.position.after found.offendingText

theorem Lexeme.stop_between (lexeme : Lexeme) (start : Position) :
    (lexeme.between start (start.after lexeme.text)).stop = start.after lexeme.text := by
  unfold between
  cases lexeme.verdict <;> rfl

/-! ## Places behind two fronts -/

/-- Whether a place behind one front and a place behind another are the same place of the text that
follows both. Columns differ on the first line of that text, which begins behind a front. -/
structure Position.Rebased (front other : Text) (first second : Position) : Prop where
  offset : first.offset + other.utf8Length = second.offset + front.utf8Length
  line : first.line + other.count '\n' = second.line + front.count '\n'
  firstLine : first.line = (start.after front).line →
    first.column + (start.after other).column = second.column + (start.after front).column
  laterLine : first.line ≠ (start.after front).line → first.column = second.column

theorem Position.rebased_after (front other passed : Text) :
    Rebased front other ((start.after front).after passed) ((start.after other).after passed) := by
  have line : (start.after passed).line = 1 + passed.count '\n' := line_after start passed
  have column := column_start_after passed
  have frontLine : (start.after front).line = 1 + front.count '\n' := line_after start front
  have otherLine : (start.after other).line = 1 + other.count '\n' := line_after start other
  have behindFront := relocate_after (start.after front) (Nat.le_refl start.line)
    (Nat.le_refl start.column) passed
  have behindOther := relocate_after (start.after other) (Nat.le_refl start.line)
    (Nat.le_refl start.column) passed
  rw [relocate_start] at behindFront behindOther
  rw [behindFront, behindOther]
  -- A place of the text is on its first line as long as no line feed was passed in it.
  constructor
  · simp only [relocate, offset_start_after]
    omega
  · simp only [relocate, frontLine, otherLine]
    omega
  · intro first
    have inFirst : (start.after passed).line = 1 := by
      simp only [relocate] at first
      omega
    simp only [relocate, if_pos inFirst]
    omega
  · intro later
    have inLater : (start.after passed).line ≠ 1 := by
      intro first
      apply later
      simp only [relocate, first]
      omega
    simp only [relocate, if_neg inLater]

/-- Whether an item behind one front and an item behind another are the same, and at the same places
of the text that follows both. -/
structure Item.Rebased (front other : Text) (first second : Item) : Prop where
  same : first.toLexeme = second.toLexeme
  start : Position.Rebased front other first.start second.start
  stop : Position.Rebased front other first.stop second.stop

theorem itemsFrom_rebased (config : Config) (front other passed text : Text) :
    List.Forall₂ (Item.Rebased front other)
      (itemsFrom config ((Position.start.after front).after passed) text)
      (itemsFrom config ((Position.start.after other).after passed) text) := by
  induction text using pass_induction config generalizing passed with
  | closing gap trivia =>
    have place := Position.rebased_after front other (passed ++ gap)
    simp only [Position.after_append] at place
    rw [itemsFrom_closing config _ trivia, itemsFrom_closing config _ trivia]
    exact .cons ⟨rfl, place, place⟩ .nil
  | step gap lexeme behind step ih =>
    have start := Position.rebased_after front other (passed ++ gap)
    have stop := Position.rebased_after front other (passed ++ gap ++ lexeme.text)
    have later := ih (passed ++ gap ++ lexeme.text)
    simp only [Position.after_append] at start stop later
    rw [itemsFrom_step _ step, itemsFrom_step _ step]
    refine .cons ⟨?_, ?_, ?_⟩ later
    · rw [Lexeme.toLexeme_between, Lexeme.toLexeme_between]
    · rw [Lexeme.start_between, Lexeme.start_between]
      exact start
    · rw [Lexeme.stop_between, Lexeme.stop_between]
      exact stop

/-! ## Items behind a front -/

/-- Whether items are those of a source behind its front: all of them if the front is empty, and
otherwise those that follow an item which ends exactly where the front ends. -/
inductive FollowFront (config : Config) (front behind : Text) : List Item → Prop where
  | all (empty : front = []) : FollowFront config front behind (tokenize config behind)
  | item {index : Nat} {item : Item}
      (given : (tokenize config (front ++ behind))[index]? = some item) (inner : item.isEnd = false)
      (ends : item.span.2 = front.utf8Length) :
      FollowFront config front behind ((tokenize config (front ++ behind)).drop (index + 1))

/-- Behind an item a text is cut as if it began there. -/
theorem drop_itemsFrom {config : Config} {place : Position} {text : Text} {index : Nat} {item : Item}
    (given : (itemsFrom config place text)[index]? = some item) (inner : item.isEnd = false) :
    ∃ passed behind, text = passed ++ behind ∧ item.span.2 = place.offset + passed.utf8Length ∧
      (itemsFrom config place text).drop (index + 1) =
        itemsFrom config (place.after passed) behind := by
  induction text using pass_induction config generalizing place index with
  | closing gap trivia =>
    have member := List.mem_of_getElem? given
    rw [itemsFrom_closing config place trivia, List.mem_singleton] at member
    rw [member] at inner
    contradiction
  | step gap lexeme behind step ih =>
    have joined : (place.after gap).after lexeme.text = place.after (gap ++ lexeme.text) :=
      (Position.after_append ..).symm
    rw [itemsFrom_step place step] at given ⊢
    cases index with
    | zero =>
      cases given
      refine ⟨gap ++ lexeme.text, behind, (List.append_assoc ..).symm, ?_, ?_⟩
      · rw [Lexeme.span_between, Position.offset_after, Text.utf8Length_append]
        exact Nat.add_assoc ..
      · rw [← joined]
        rfl
    | succ index =>
      obtain ⟨passed, rest, rfl, ends, later⟩ := ih given
      refine ⟨gap ++ lexeme.text ++ passed, rest, by simp only [List.append_assoc], ?_, ?_⟩
      · rw [ends, joined, Position.offset_after, Text.utf8Length_append _ passed]
        exact Nat.add_assoc ..
      · rw [List.drop_succ_cons, later, joined, ← Position.after_append]

theorem FollowFront.eq_itemsFrom {config : Config} {front behind : Text} {items : List Item}
    (follow : FollowFront config front behind items) :
    items = itemsFrom config (Position.start.after front) behind := by
  cases follow with
  | all empty =>
    rw [empty, tokenize_eq_itemsFrom]
    rfl
  | item given inner ends =>
    rw [tokenize_eq_itemsFrom] at given ⊢
    obtain ⟨passed, rest, same, stop, later⟩ := drop_itemsFrom given inner
    have zero : Position.start.offset = 0 := rfl
    have bytes : front.utf8Length = passed.utf8Length := by omega
    obtain ⟨rfl, rfl⟩ := Text.append_inj_of_utf8Length_eq same bytes
    exact later

/-- Whatever two sources hold before the same text, behind items that end there their items are the
same but for the places, which are rebased. -/
theorem rebased_of_followFront (config : Config) (front other behind : Text)
    (items otherItems : List Item) (follow : FollowFront config front behind items)
    (otherFollow : FollowFront config other behind otherItems) :
    List.Forall₂ (Item.Rebased front other) items otherItems := by
  rw [follow.eq_itemsFrom, otherFollow.eq_itemsFrom]
  exact itemsFrom_rebased config front other [] behind

/-- Behind a string on the second line of one source and behind a number on the first line of
another, the same rest of two lines is cut the same way. -/
theorem rebased_of_followFront_string :
    FollowFront .default ['a', '\n', '"', 'é', '"'] [' ', 'y', '\n', 'z']
      ((tokenize .default ['a', '\n', '"', 'é', '"', ' ', 'y', '\n', 'z']).drop 2) ∧
    FollowFront .default ['1', '2'] [' ', 'y', '\n', 'z']
      ((tokenize .default ['1', '2', ' ', 'y', '\n', 'z']).drop 1) ∧
    List.Forall₂ (Item.Rebased ['a', '\n', '"', 'é', '"'] ['1', '2'])
      ((tokenize .default ['a', '\n', '"', 'é', '"', ' ', 'y', '\n', 'z']).drop 2)
      ((tokenize .default ['1', '2', ' ', 'y', '\n', 'z']).drop 1) :=
  have string : (tokenize .default ['a', '\n', '"', 'é', '"', ' ', 'y', '\n', 'z'])[1]? =
      some (.token ⟨.string ['é'], ['"', 'é', '"'], ⟨2, 2, 1⟩, ⟨6, 2, 4⟩⟩) := by decide +kernel
  have number : (tokenize .default ['1', '2', ' ', 'y', '\n', 'z'])[0]? =
      some (.token ⟨.integer ['1', '2'], ['1', '2'], ⟨0, 1, 1⟩, ⟨2, 1, 3⟩⟩) := by decide +kernel
  have follow := @FollowFront.item .default ['a', '\n', '"', 'é', '"'] _ 1 _ string rfl rfl
  have otherFollow := @FollowFront.item .default ['1', '2'] _ 0 _ number rfl rfl
  ⟨follow, otherFollow, rebased_of_followFront .default _ _ _ _ _ follow otherFollow⟩

/-- On the first line of that rest the places are a column apart, and behind it they are not. -/
example : ((tokenize .default "a\n\"é\" y\nz".toList).drop 2).map Item.start =
      [⟨7, 2, 5⟩, ⟨9, 3, 1⟩, ⟨10, 3, 2⟩] ∧
    ((tokenize .default "12 y\nz".toList).drop 1).map Item.start =
      [⟨3, 1, 4⟩, ⟨5, 2, 1⟩, ⟨6, 2, 2⟩] := by
  decide +kernel

end Munch
