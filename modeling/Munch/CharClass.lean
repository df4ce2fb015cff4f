import Munch.CodePoint.Alphabetic
import Munch.CodePoint.Numeric

/-! # Character classes

What kind of item a character can begin. Words are made of the letters and numbers of every script,
while numbers, blanks and operators are ASCII. -/
set_option autoImplicit false

namespace Munch

inductive CharClass where
  | letter
  | digit
  | whitespace
  | quote
  | operator
  | other
deriving DecidableEq, Repr

def isIdentifierStart (char : Char) : Bool :=
  isAlphabetic char || char == '_'

def isIdentifierContinue (char : Char) : Bool :=
  isAlphabetic char || isNumeric char || char == '_'

def isDigit (char : Char) : Bool :=
  char.isDigit

def isWhitespace (char : Char) : Bool :=
  char == ' ' || char == '\t' || char == '\n' || char == '\r'

def isQuote (char : Char) : Bool :=
  char == '"'

/-- The characters that begin an operator, `&` and `|` included, which are none by themselves. -/
def isOperatorChar (char : Char) : Bool :=
  char ∈ ['+', '-', '*', '/', '%', '<', '>', '!', '=', '&', '|', '(', ')', '{', '}', '[', ']', ',',
    ':', '.', ';']

/-- The class of a character: the first that holds, in the order of the constructors. -/
def classify (char : Char) : CharClass :=
  if isIdentifierStart char then .letter
  else if isDigit char then .digit
  else if isWhitespace char then .whitespace
  else if isQuote char then .quote
  else if isOperatorChar char then .operator
  else .other

theorem isIdentifierContinue_of_isIdentifierStart {char : Char}
    (starts : isIdentifierStart char = true) : isIdentifierContinue char = true := by
  simp only [isIdentifierStart, Bool.or_eq_true] at starts
  simp only [isIdentifierContinue, Bool.or_eq_true]
  rcases starts with letter | underscore
  · exact Or.inl (Or.inl letter)
  · exact Or.inr underscore

theorem isIdentifierStart_of_classify {char : Char} (letter : classify char = .letter) :
    isIdentifierStart char = true := by
  unfold classify at letter
  repeat' split at letter
  all_goals first | assumption | contradiction

theorem isDigit_of_classify {char : Char} (digit : classify char = .digit) :
    isDigit char = true := by
  unfold classify at digit
  repeat' split at digit
  all_goals first | assumption | contradiction

theorem isQuote_of_classify {char : Char} (quote : classify char = .quote) :
    isQuote char = true := by
  unfold classify at quote
  repeat' split at quote
  all_goals first | assumption | contradiction

end Munch
