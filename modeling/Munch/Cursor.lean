import Munch.Position

/-! # Cursors

A cursor stands between the text that has been passed and the rest, and knows its place. Advancing
moves one character over and the three counters with it. Taking a slice goes back from the cursor by
bytes, and fails where it would begin behind the cursor or inside a character. -/
set_option autoImplicit false

namespace Munch

/-- A place in a text: what was passed, the latest character first, and what is still ahead. -/
structure Cursor where
  passed : Text
  rest : Text
  position : Position
deriving DecidableEq, Repr

namespace Cursor

def ofText (source : Text) : Cursor := ⟨[], source, .start⟩

def atEnd (cursor : Cursor) : Bool := cursor.rest.isEmpty

def peek (cursor : Cursor) : Option Char := cursor.rest.head?

def peekAhead (cursor : Cursor) (count : Nat) : Option Char := cursor.rest[count]?

def advance (cursor : Cursor) : Cursor :=
  match cursor.rest with
  | [] => cursor
  | char :: rest => ⟨char :: cursor.passed, rest, cursor.position.advance char⟩

def advanceBy : Nat → Cursor → Cursor
  | 0, cursor => cursor
  | count + 1, cursor => advanceBy count cursor.advance

variable {σ : Type}

def advanceWhileFrom (ask : σ → Char → Bool × σ) :
    σ → Text → Position → Text → σ × Cursor
  | state, passed, position, [] => (state, ⟨passed, [], position⟩)
  | state, passed, position, char :: rest =>
    match ask state char with
    | (true, next) => advanceWhileFrom ask next (char :: passed) (position.advance char) rest
    | (false, next) => (next, ⟨passed, char :: rest, position⟩)

/-- Passes characters until the test, which may change its state with every question, refuses one.
It is asked once for each character passed and once for the one refused. -/
def advanceWhile (ask : σ → Char → Bool × σ) (state : σ) (cursor : Cursor) : σ × Cursor :=
  advanceWhileFrom ask state cursor.passed cursor.position cursor.rest

def eat (cursor : Cursor) (expected : Char) : Bool × Cursor :=
  if cursor.peek = some expected then (true, cursor.advance) else (false, cursor)

/-- The last characters of the passed text that take the given number of bytes, put before `slice`;
none if a character would have to be cut. -/
def sliceBack (slice : Text) : Nat → Text → Option Text
  | 0, _ => some slice
  | _ + 1, [] => none
  | bytes + 1, char :: passed =>
    if char.utf8Size ≤ bytes + 1 then
      sliceBack (char :: slice) (bytes + 1 - char.utf8Size) passed
    else none

/-- The text from a byte offset to the cursor. There is none if the offset lies behind the cursor or
inside a character. -/
def sliceFrom (cursor : Cursor) (offset : Nat) : Option Text :=
  if offset ≤ cursor.position.offset then
    sliceBack [] (cursor.position.offset - offset) cursor.passed
  else none

@[simp] theorem rest_ofText (source : Text) : (ofText source).rest = source := rfl

theorem rest_advance (cursor : Cursor) : cursor.advance.rest = cursor.rest.drop 1 := by
  rcases cursor with ⟨passed, rest, position⟩
  cases rest with
  | nil => rfl
  | cons char rest => rfl

@[simp] theorem rest_advanceBy (count : Nat) (cursor : Cursor) :
    (advanceBy count cursor).rest = cursor.rest.drop count := by
  induction count generalizing cursor with
  | zero => simp [advanceBy]
  | succ count ih => simp [advanceBy, ih, rest_advance]

theorem position_advanceBy (count : Nat) (cursor : Cursor) :
    (advanceBy count cursor).position = cursor.position.after (cursor.rest.take count) := by
  induction count generalizing cursor with
  | zero => simp [advanceBy]
  | succ count ih =>
    rcases cursor with ⟨passed, rest, position⟩
    cases rest with
    | nil => simp [advanceBy, ih, advance]
    | cons char rest => simp [advanceBy, ih, advance]

end Cursor

end Munch
