import Munch.Text

/-! # Places in a source

A place is a byte offset together with the line and column that a reader counts. The three counters
are moved one character at a time; only a line feed begins a new line. -/
set_option autoImplicit false

namespace Munch

/-- A place in a source: bytes from 0, lines and columns from 1, a column being one character. -/
structure Position where
  offset : Nat
  line : Nat
  column : Nat
deriving DecidableEq, Repr

namespace Position

def start : Position := ⟨0, 1, 1⟩

instance : Inhabited Position := ⟨start⟩

def advance (position : Position) (char : Char) : Position :=
  if char = '\n' then ⟨position.offset + char.utf8Size, position.line + 1, 1⟩
  else ⟨position.offset + char.utf8Size, position.line, position.column + 1⟩

def after (position : Position) (text : Text) : Position :=
  text.foldl advance position

/-- Places are ordered by offset, then by line, then by column. -/
instance : LT Position where
  lt first second := first.offset < second.offset ∨ first.offset = second.offset ∧
    (first.line < second.line ∨ first.line = second.line ∧ first.column < second.column)

instance : LE Position where
  le first second := first < second ∨ first = second

instance (first second : Position) : Decidable (first < second) :=
  inferInstanceAs (Decidable (_ ∨ _))

instance (first second : Position) : Decidable (first ≤ second) :=
  inferInstanceAs (Decidable (_ ∨ _))

def sort (positions : List Position) : List Position :=
  positions.mergeSort fun first second => decide (first ≤ second)

def display (position : Position) : Text :=
  Text.ofNat position.line ++ ':' :: Text.ofNat position.column

@[simp] theorem after_nil (position : Position) : position.after [] = position := rfl

@[simp] theorem after_cons (position : Position) (char : Char) (text : Text) :
    position.after (char :: text) = (position.advance char).after text := rfl

theorem after_append (position : Position) (first second : Text) :
    position.after (first ++ second) = (position.after first).after second := by
  simp only [after, List.foldl_append]

end Position

end Munch
