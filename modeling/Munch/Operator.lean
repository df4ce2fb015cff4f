import Munch.Text

/-! # Operators and punctuation

Seven operators of two characters and nineteen of one. The two readers below are the whole table:
they say which pair or which single character is an operator, and nothing else is. -/
set_option autoImplicit false

namespace Munch

inductive Operator where
  | equalEqual
  | notEqual
  | lessEqual
  | greaterEqual
  | andAnd
  | orOr
  | arrow
  | plus
  | minus
  | star
  | slash
  | percent
  | less
  | greater
  | not
  | equal
  | leftParen
  | rightParen
  | leftBrace
  | rightBrace
  | leftBracket
  | rightBracket
  | comma
  | colon
  | dot
  | semicolon
deriving DecidableEq, Repr

namespace Operator

def ofPair? : Char → Char → Option Operator
  | '=', '=' => some equalEqual
  | '!', '=' => some notEqual
  | '<', '=' => some lessEqual
  | '>', '=' => some greaterEqual
  | '&', '&' => some andAnd
  | '|', '|' => some orOr
  | '-', '>' => some arrow
  | _, _ => none

def ofChar? : Char → Option Operator
  | '+' => some plus
  | '-' => some minus
  | '*' => some star
  | '/' => some slash
  | '%' => some percent
  | '<' => some less
  | '>' => some greater
  | '!' => some not
  | '=' => some equal
  | '(' => some leftParen
  | ')' => some rightParen
  | '{' => some leftBrace
  | '}' => some rightBrace
  | '[' => some leftBracket
  | ']' => some rightBracket
  | ',' => some comma
  | ':' => some colon
  | '.' => some dot
  | ';' => some semicolon
  | _ => none

def name : Operator → Text
  | equalEqual => "EqualEqual".toList
  | notEqual => "NotEqual".toList
  | lessEqual => "LessEqual".toList
  | greaterEqual => "GreaterEqual".toList
  | andAnd => "AndAnd".toList
  | orOr => "OrOr".toList
  | arrow => "Arrow".toList
  | plus => "Plus".toList
  | minus => "Minus".toList
  | star => "Star".toList
  | slash => "Slash".toList
  | percent => "Percent".toList
  | less => "Less".toList
  | greater => "Greater".toList
  | not => "Not".toList
  | equal => "Equal".toList
  | leftParen => "LParen".toList
  | rightParen => "RParen".toList
  | leftBrace => "LBrace".toList
  | rightBrace => "RBrace".toList
  | leftBracket => "LBracket".toList
  | rightBracket => "RBracket".toList
  | comma => "Comma".toList
  | colon => "Colon".toList
  | dot => "Dot".toList
  | semicolon => "Semicolon".toList

end Operator

end Munch
