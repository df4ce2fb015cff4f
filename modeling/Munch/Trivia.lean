import Munch.CharClass
import Munch.Cursor

/-! # Trivia

Between items stand blanks and comments. A comment begins with two slashes and runs up to the line
feed or the end of the text; the line feed is a blank. -/
set_option autoImplicit false

namespace Munch

def startsComment : Text → Bool
  | '/' :: '/' :: _ => true
  | _ => false

/-- Whether a character is trivia, given whether it stands in a comment and what follows it. The
answer says whether the next character stands in one. -/
def acceptTrivia (inComment : Bool) (char : Char) (rest : Text) : Option Bool :=
  if isWhitespace char then some (inComment && char != '\n')
  else if inComment || startsComment (char :: rest) then some true
  else none

def leadingTrivia (text : Text) : Text := text.leading acceptTrivia false

def Cursor.skipTrivia (cursor : Cursor) : Cursor :=
  cursor.advanceBy (leadingTrivia cursor.rest).length

@[simp] theorem Cursor.rest_skipTrivia (cursor : Cursor) :
    cursor.skipTrivia.rest = cursor.rest.drop (leadingTrivia cursor.rest).length :=
  Cursor.rest_advanceBy _ _

end Munch
