import Munch.LexError
import Munch.Lexeme

/-! # Items

An item is what a source is cut into: a token or an error, with its place. Reading the next item
passes trivia only where the cursor stands on a blank; on two slashes it reads an operator. -/
set_option autoImplicit false

namespace Munch

inductive Item where
  | token (token : Token)
  | error (error : LexError)
deriving DecidableEq, Repr

namespace Item

def token? : Item → Option Token
  | .token found => some found
  | .error _ => none

def error? : Item → Option LexError
  | .token _ => none
  | .error found => some found

def isEnd : Item → Bool
  | .token found => found.isEnd
  | .error _ => false

end Item

def Lexeme.between (lexeme : Lexeme) (start stop : Position) : Item :=
  match lexeme.verdict with
  | .token kind => .token ⟨kind, lexeme.text, start, stop⟩
  | .error fault => .error ⟨fault, start, lexeme.text⟩

namespace Cursor

def itemHere (config : Config) (cursor : Cursor) : Item × Cursor :=
  let lexeme := Lexeme.atFront config cursor.rest
  let behind := cursor.advanceBy lexeme.text.length
  (lexeme.between cursor.position behind.position, behind)

def atBlank (cursor : Cursor) : Bool := cursor.peek.any isWhitespace

/-- The next item, and the cursor behind it. From a blank, blanks and comments are passed first. -/
def nextItem (config : Config) (cursor : Cursor) : Item × Cursor :=
  if cursor.atBlank then cursor.skipTrivia.itemHere config else cursor.itemHere config

@[simp] theorem snd_itemHere (config : Config) (cursor : Cursor) :
    (cursor.itemHere config).2 =
      cursor.advanceBy (Lexeme.atFront config cursor.rest).text.length := rfl

theorem isEnd_itemHere_of_rest_eq_nil (config : Config) {cursor : Cursor}
    (finished : cursor.rest = []) : (cursor.itemHere config).1.isEnd = true := by
  simp [itemHere, finished, Lexeme.between, Item.isEnd, Token.isEnd]

theorem itemHere_shortens (config : Config) {cursor : Cursor} (ahead : cursor.rest ≠ []) :
    (cursor.itemHere config).2.rest.length < cursor.rest.length := by
  cases shape : cursor.rest with
  | nil => exact absurd shape ahead
  | cons char rest =>
    have some := List.length_pos_iff.mpr (Lexeme.text_atFront_ne_nil config char rest)
    simp only [snd_itemHere, rest_advanceBy, shape, List.length_drop, List.length_cons]
    omega

theorem itemHere_closes_or_shortens (config : Config) (cursor : Cursor) :
    (cursor.itemHere config).1.isEnd = true ∧
        (cursor.itemHere config).2.rest.length ≤ cursor.rest.length ∨
      (cursor.itemHere config).2.rest.length < cursor.rest.length := by
  by_cases finished : cursor.rest = []
  · refine Or.inl ⟨isEnd_itemHere_of_rest_eq_nil config finished, ?_⟩
    simp
  · exact Or.inr (itemHere_shortens config finished)

theorem length_rest_skipTrivia_le (cursor : Cursor) :
    cursor.skipTrivia.rest.length ≤ cursor.rest.length := by
  simp

theorem nextItem_closes_or_shortens (config : Config) (cursor : Cursor) :
    (cursor.nextItem config).1.isEnd = true ∧
        (cursor.nextItem config).2.rest.length ≤ cursor.rest.length ∨
      (cursor.nextItem config).2.rest.length < cursor.rest.length := by
  unfold nextItem
  split
  · have fewer := length_rest_skipTrivia_le cursor
    rcases itemHere_closes_or_shortens config cursor.skipTrivia with ⟨closes, most⟩ | less
    · exact Or.inl ⟨closes, Nat.le_trans most fewer⟩
    · exact Or.inr (Nat.lt_of_lt_of_le less fewer)
  · exact itemHere_closes_or_shortens config cursor

end Cursor

end Munch
