import Munch.Proofs.Pass

/-! # Moving items

What is cut from a text does not depend on where the text stands: other places move the items and
change nothing else. Behind whole lines a place is shifted, and behind part of a line the columns of
the first line are moved as well. -/
set_option autoImplicit false

namespace Munch

namespace Position

def shift (bytes lines : Nat) (place : Position) : Position :=
  ⟨place.offset + bytes, place.line + lines, place.column⟩

/-- The place of a text, when that text begins at `origin` and not at the start. -/
def relocate (origin place : Position) : Position where
  offset := origin.offset + place.offset
  line := origin.line + (place.line - 1)
  column := if place.line = 1 then origin.column + (place.column - 1) else place.column

theorem shift_after (bytes lines : Nat) (place : Position) (text : Text) :
    (shift bytes lines place).after text = shift bytes lines (place.after text) := by
  induction text generalizing place with
  | nil => rfl
  | cons char rest ih =>
    have step : (shift bytes lines place).advance char =
        shift bytes lines (place.advance char) := by
      unfold advance
      split
      · simp only [shift, mk.injEq, and_true]
        omega
      · simp only [shift, mk.injEq, and_true]
        omega
    rw [after_cons, after_cons, step, ih]

theorem relocate_start (origin : Position) : relocate origin start = origin := rfl

theorem relocate_after (origin : Position) {place : Position} (line : 1 ≤ place.line)
    (column : 1 ≤ place.column) (text : Text) :
    (relocate origin place).after text = relocate origin (place.after text) := by
  induction text generalizing place with
  | nil => rfl
  | cons char rest ih =>
    have step : (relocate origin place).advance char =
        relocate origin (place.advance char) := by
      unfold advance relocate
      by_cases feed : char = '\n'
      · have later : place.line + 1 ≠ 1 := by omega
        simp only [feed, if_true, if_neg later, mk.injEq, and_true]
        omega
      · by_cases first : place.line = 1
        · simp only [feed, if_false, if_pos first, mk.injEq, true_and]
          omega
        · simp only [feed, if_false, if_neg first, mk.injEq, and_true]
          omega
    have lineLater : 1 ≤ (place.advance char).line := by
      unfold advance
      split
      · exact Nat.le_add_left 1 _
      · exact line
    have columnLater : 1 ≤ (place.advance char).column := by
      unfold advance
      split
      · exact Nat.le_refl 1
      · exact Nat.le_add_left 1 _
    rw [after_cons, after_cons, step, ih lineLater columnLater]

theorem line_after (place : Position) (text : Text) :
    (place.after text).line = place.line + text.count '\n' := by
  induction text generalizing place with
  | nil => rfl
  | cons char rest ih =>
    rw [after_cons, ih]
    by_cases feed : char = '\n'
    · subst feed
      simp only [advance, if_true, List.count_cons_self]
      omega
    · simp [advance, feed, List.count_cons_of_ne]

end Position

def LexError.moved (move : Position → Position) (error : LexError) : LexError :=
  { error with position := move error.position }

def Item.moved (move : Position → Position) : Item → Item
  | .token found => .token { found with start := move found.start, stop := move found.stop }
  | .error found => .error (found.moved move)

theorem Item.error?_moved (move : Position → Position) (item : Item) :
    (item.moved move).error? = item.error?.map (LexError.moved move) := by
  cases item <;> rfl

theorem Item.isEnd_moved (move : Position → Position) (item : Item) :
    (item.moved move).isEnd = item.isEnd := by
  cases item <;> rfl

theorem Lexeme.moved_between (move : Position → Position) (lexeme : Lexeme)
    (start stop : Position) :
    (lexeme.between start stop).moved move = lexeme.between (move start) (move stop) := by
  unfold Lexeme.between
  cases lexeme.verdict <;> rfl

/-- A move that agrees with passing text moves all items of a text. -/
theorem itemsFrom_moved (config : Config) {move : Position → Position} {place : Position}
    (agrees : ∀ text, (move place).after text = move (place.after text)) (text : Text) :
    itemsFrom config (move place) text = (itemsFrom config place text).map (Item.moved move) := by
  induction text using pass_induction config generalizing place with
  | closing gap trivia =>
    rw [itemsFrom_closing config _ trivia, itemsFrom_closing config _ trivia, agrees]
    rfl
  | step gap lexeme behind step ih =>
    have stop : ((move place).after gap).after lexeme.text =
        move ((place.after gap).after lexeme.text) := by
      rw [← Position.after_append, agrees, Position.after_append]
    have later : ∀ more, (move ((place.after gap).after lexeme.text)).after more =
        move (((place.after gap).after lexeme.text).after more) := by
      intro more
      rw [← stop]
      simp only [← Position.after_append]
      exact agrees _
    rw [itemsFrom_step _ step, itemsFrom_step _ step, stop, agrees, ih later, List.map_cons,
      Lexeme.moved_between]

theorem itemsFrom_shift (config : Config) (bytes lines : Nat) (place : Position) (text : Text) :
    itemsFrom config (place.shift bytes lines) text =
      (itemsFrom config place text).map (Item.moved (Position.shift bytes lines)) :=
  itemsFrom_moved config (Position.shift_after bytes lines place) text

/-- A text that stands at a place has the items that it has as a source, relocated. -/
theorem itemsFrom_relocate (config : Config) (origin : Position) (text : Text) :
    itemsFrom config origin text =
      (itemsFrom config .start text).map (Item.moved (Position.relocate origin)) := by
  have agrees := Position.relocate_after origin (Nat.le_refl Position.start.line)
    (Nat.le_refl Position.start.column)
  have moved := itemsFrom_moved config agrees text
  rw [Position.relocate_start] at moved
  exact moved

end Munch
