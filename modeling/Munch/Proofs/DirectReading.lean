import Munch.Proofs.LongestTrivia
import Munch.Proofs.Termination

/-! # Items that are asked for directly

A stream passes trivia before it asks for an item. Who asks directly may stand on trivia. From a
blank the request passes the trivia itself and is made once more, and behind trivia there is no
blank, so it is never made a third time. In front of a comment nothing is passed: its first slash is
read as an operator. Everywhere else it does not matter whether trivia was passed before. -/
set_option autoImplicit false

namespace Munch.Cursor

variable {config : Config} {cursor : Cursor}

theorem atBlank_iff : cursor.atBlank = true ↔ cursor.peek.map classify = some .whitespace := by
  rw [atBlank]
  cases cursor.peek with
  | none => simp
  | some char => simp [classify_eq_whitespace_iff]

/-! ## How often a request is made -/

/-- How a request for the next item is answered, and how often it is made again. The class of the
character ahead decides: from a blank the request is made again behind the trivia, and from anywhere
else the item that begins at the cursor is the answer. -/
inductive Answered (config : Config) : Cursor → Nat → Item × Cursor → Prop where
  | here {cursor : Cursor} (visible : cursor.peek.map classify ≠ some .whitespace) :
      Answered config cursor 0 (cursor.itemHere config)
  | again {cursor : Cursor} {repeats : Nat} {answer : Item × Cursor}
      (blank : cursor.peek.map classify = some .whitespace)
      (later : Answered config cursor.skipTrivia repeats answer) :
      Answered config cursor (repeats + 1) answer

theorem answered_nextItem (config : Config) (cursor : Cursor) :
    Answered config cursor (if cursor.atBlank then 1 else 0) (cursor.nextItem config) := by
  have behind : cursor.skipTrivia.peek.map classify ≠ some .whitespace := by
    rw [Ne, ← atBlank_iff, atBlank_skipTrivia]
    exact Bool.false_ne_true
  rw [nextItem]
  split
  · rename_i blank
    exact .again (atBlank_iff.mp blank) (.here behind)
  · rename_i visible
    exact .here fun blank => visible (atBlank_iff.mpr blank)

/-- A request has one answer, and is made again once from a blank and never from elsewhere. -/
theorem answered_iff {repeats : Nat} {answer : Item × Cursor} :
    Answered config cursor repeats answer ↔
      answer = cursor.nextItem config ∧ repeats = if cursor.atBlank then 1 else 0 := by
  constructor
  · intro answered
    induction answered with
    | @here cursor visible =>
      have noBlank : ¬ cursor.atBlank = true := fun blank => visible (atBlank_iff.mp blank)
      rw [nextItem, if_neg noBlank, if_neg noBlank]
      exact ⟨rfl, rfl⟩
    | @again cursor repeats answer blank later ih =>
      -- No blank is left behind the trivia, so the request made there is not made again.
      obtain ⟨same, none⟩ := ih
      rw [atBlank_skipTrivia] at none
      have isBlank := atBlank_iff.mpr blank
      rw [same, none, if_pos isBlank]
      exact ⟨(nextItem_of_atBlank config isBlank).symm, rfl⟩
  · rintro ⟨rfl, rfl⟩
    exact answered_nextItem config cursor

/-! ## Where the item begins -/

theorem start_itemHere (config : Config) (cursor : Cursor) :
    (cursor.itemHere config).1.start = cursor.position :=
  Lexeme.start_between _ _ _

theorem offset_lt_skipTrivia (some : leadingTrivia cursor.rest ≠ []) :
    cursor.position.offset < cursor.skipTrivia.position.offset := by
  have bytes := Text.utf8Length_pos some
  rw [position_skipTrivia, Position.offset_after]
  omega

theorem start_nextItem_skipTrivia (config : Config) (cursor : Cursor) :
    (cursor.skipTrivia.nextItem config).1.start = cursor.skipTrivia.position := by
  rw [nextItem_skipTrivia, start_itemHere]

/-- Asked for in front of a comment, the next item is the operator of its first slash. -/
theorem nextItem_comment (config : Config) {inside : Text}
    (ahead : cursor.rest = '/' :: '/' :: inside) :
    (cursor.nextItem config).1 =
      .token ⟨.operator .slash, ['/'], cursor.position, cursor.position.after ['/']⟩ := by
  have visible : cursor.rest.begins isWhitespace = false := by
    rw [ahead]
    rfl
  have front : Lexeme.atFront config cursor.rest = ⟨.token (.operator .slash), ['/']⟩ := by
    rw [ahead, Lexeme.atFront_operator config rfl]
    rfl
  rw [nextItem_visible config visible, front]
  rfl

/-! ## Both ways to ask -/

theorem skipTrivia_eq_self (none : leadingTrivia cursor.rest = []) :
    cursor.skipTrivia = cursor := by
  rw [skipTrivia, none]
  rfl

theorem leadingTrivia_eq_nil_of_visible (visible : ¬ cursor.atBlank = true)
    (code : ¬ ['/', '/'] <+: cursor.rest) : leadingTrivia cursor.rest = [] := by
  have noComment : startsComment cursor.rest = false := by
    rw [← Bool.not_eq_true, startsComment_iff]
    rintro ⟨inside, ahead⟩
    exact code ⟨inside, ahead.symm⟩
  cases ahead : cursor.rest with
  | nil => rfl
  | cons char rest =>
    rw [ahead] at noComment
    rw [atBlank, peek, ahead] at visible
    exact leadingTrivia_eq_nil (by simpa using visible) noComment

/-- Whether it matters to a request for the next item that trivia is passed before it is made, and
how the request deals with trivia that was not. -/
structure AskedDirectly (config : Config) (cursor : Cursor) : Prop where
  agrees : cursor.nextItem config = cursor.skipTrivia.nextItem config ↔
    ¬ ['/', '/'] <+: cursor.rest
  comment : ['/', '/'] <+: cursor.rest →
    (cursor.nextItem config).1 =
        .token ⟨.operator .slash, ['/'], cursor.position, cursor.position.after ['/']⟩ ∧
      cursor.position.offset < (cursor.skipTrivia.nextItem config).1.start.offset
  repeats : ∀ repeats answer, Answered config cursor repeats answer ↔
    answer = cursor.nextItem config ∧ repeats = if cursor.atBlank then 1 else 0
  start : cursor.atBlank = true → ∃ trivia, LongestTrivia cursor.rest trivia ∧ trivia ≠ [] ∧
    (cursor.nextItem config).1.start = cursor.position.after trivia

/-- Under every configuration and from every cursor, only in front of a comment does it matter that
trivia is passed before the next item is asked for. -/
theorem askedDirectly_nextItem (config : Config) (cursor : Cursor) :
    cursor.AskedDirectly config := by
  have comment : ['/', '/'] <+: cursor.rest →
      (cursor.nextItem config).1 =
          .token ⟨.operator .slash, ['/'], cursor.position, cursor.position.after ['/']⟩ ∧
        cursor.position.offset < (cursor.skipTrivia.nextItem config).1.start.offset := by
    rintro ⟨inside, ahead⟩
    refine ⟨nextItem_comment config ahead.symm, ?_⟩
    rw [start_nextItem_skipTrivia]
    apply offset_lt_skipTrivia
    intro none
    have code := not_startsComment_of_leadingTrivia none
    rw [← ahead] at code
    contradiction
  constructor
  case agrees =>
    constructor
    · intro same starts
      obtain ⟨slash, later⟩ := comment starts
      rw [← same, slash] at later
      exact Nat.lt_irrefl _ later
    · intro code
      by_cases blank : cursor.atBlank = true
      · exact nextItem_of_atBlank config blank
      · rw [skipTrivia_eq_self (leadingTrivia_eq_nil_of_visible blank code)]
  case comment => exact comment
  case repeats =>
    intro repeats answer
    exact answered_iff
  case start =>
    intro blank
    refine ⟨leadingTrivia cursor.rest, longestTrivia_leadingTrivia cursor.rest, ?_, ?_⟩
    · intro none
      have same := skipTrivia_eq_self none
      have visible := cursor.atBlank_skipTrivia
      rw [same, blank] at visible
      contradiction
    · rw [nextItem_of_atBlank config blank, start_nextItem_skipTrivia, position_skipTrivia]

/-- From a blank the string behind a comment is given; from the comment, a slash. -/
example : ((Cursor.ofText [' ', '/', '/', '\n', '"']).nextItem .default).1 =
      .error ⟨.unterminatedString, ⟨4, 2, 1⟩, ['"']⟩ ∧
    ((Cursor.ofText ['/', '/', '\n', '"']).nextItem .default).1 =
      .token ⟨.operator .slash, ['/'], ⟨0, 1, 1⟩, ⟨1, 1, 2⟩⟩ := by
  decide +kernel

end Munch.Cursor
