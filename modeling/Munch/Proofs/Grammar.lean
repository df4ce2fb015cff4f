import Munch.Lexeme
import Munch.Proofs.NumberReading
import Munch.Proofs.StringElements

/-! # The language of lexemes

Which texts are lexemes, and of which kind, said without a reader: words, numbers, strings and the
twenty-six operators. A configuration decides only the kind of a word. -/
set_option autoImplicit false

namespace Munch

def Operator.spelling : Operator → Text
  | equalEqual => ['=', '=']
  | notEqual => ['!', '=']
  | lessEqual => ['<', '=']
  | greaterEqual => ['>', '=']
  | andAnd => ['&', '&']
  | orOr => ['|', '|']
  | arrow => ['-', '>']
  | plus => ['+']
  | minus => ['-']
  | star => ['*']
  | slash => ['/']
  | percent => ['%']
  | less => ['<']
  | greater => ['>']
  | not => ['!']
  | equal => ['=']
  | leftParen => ['(']
  | rightParen => [')']
  | leftBrace => ['{']
  | rightBrace => ['}']
  | leftBracket => ['[']
  | rightBracket => [']']
  | comma => [',']
  | colon => [':']
  | dot => ['.']
  | semicolon => [';']

inductive IsWord : Text → Prop where
  | intro {first : Char} {rest : Text} (starts : isIdentifierStart first = true)
      (continues : ∀ char ∈ rest, isIdentifierContinue char = true) : IsWord (first :: rest)

/-- The lexemes of the language with their kinds. -/
inductive Lexical (config : Config) : Kind → Text → Prop where
  | word {text : Text} (isWord : IsWord text) : Lexical config (config.kindOf text) text
  | integer {digits : Text} (isDigits : Number.IsDigits digits) :
      Lexical config (.integer digits) digits
  | floating {digits fraction : Text} (isDigits : Number.IsDigits digits)
      (isFraction : Number.IsDigits fraction) :
      Lexical config (.floating (digits ++ '.' :: fraction)) (digits ++ '.' :: fraction)
  | string (elements : List StringLiteral.Element) :
      Lexical config (.string (StringLiteral.contents elements))
        ('"' :: (StringLiteral.written elements ++ ['"']))
  | operator (symbol : Operator) : Lexical config (.operator symbol) symbol.spelling

namespace Operator

theorem ofPair?_eq_some_iff {first second : Char} {symbol : Operator} :
    ofPair? first second = some symbol ↔ symbol.spelling = [first, second] := by
  constructor
  · intro found
    unfold ofPair? at found
    split at found <;> simp_all [spelling, eq_comm]
  · intro spelled
    cases symbol <;> simp_all [spelling] <;> obtain ⟨rfl, rfl⟩ := spelled <;> rfl

theorem ofChar?_eq_some_iff {char : Char} {symbol : Operator} :
    ofChar? char = some symbol ↔ symbol.spelling = [char] := by
  constructor
  · intro found
    unfold ofChar? at found
    split at found <;> simp_all [spelling, eq_comm]
  · intro spelled
    cases symbol <;> simp_all [spelling] <;> subst spelled <;> rfl

end Operator

end Munch
