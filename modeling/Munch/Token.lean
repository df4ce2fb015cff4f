import Munch.Keyword
import Munch.Operator
import Munch.Position
import Munch.Text.Quoted

/-! # Tokens

A token is a piece of the source with what it means. Literals carry their content: numbers as the
digits that were written, strings with their escapes decoded. -/
set_option autoImplicit false

namespace Munch

inductive Kind where
  | identifier
  | keyword (word : Keyword)
  | integer (digits : Text)
  | floating (digits : Text)
  | string (content : Text)
  | boolean (value : Bool)
  | operator (symbol : Operator)
  | endOfInput
deriving DecidableEq, Repr

namespace Kind

def tag : Kind → Text
  | identifier => "Identifier".toList
  | keyword _ => "Keyword".toList
  | integer _ => "IntegerLiteral".toList
  | floating _ => "FloatingLiteral".toList
  | string _ => "StringLiteral".toList
  | boolean _ => "BooleanLiteral".toList
  | operator symbol => symbol.name
  | endOfInput => "EndOfInput".toList

def name : Kind → Text
  | keyword word => "Keyword(".toList ++ word.spelling ++ [')']
  | kind => kind.tag

def truthWord (value : Bool) : Text := if value then "true".toList else "false".toList

def detailed (kind : Kind) : Text :=
  match kind with
  | keyword word => kind.tag ++ '(' :: word.title ++ [')']
  | integer digits => kind.tag ++ '(' :: digits.quoted ++ [')']
  | floating digits => kind.tag ++ '(' :: digits.quoted ++ [')']
  | string content => kind.tag ++ '(' :: content.quoted ++ [')']
  | boolean value => kind.tag ++ '(' :: truthWord value ++ [')']
  | identifier | operator _ | endOfInput => kind.tag

end Kind

structure Token where
  kind : Kind
  lexeme : Text
  start : Position
  stop : Position
deriving DecidableEq, Repr

def Token.isEnd (token : Token) : Bool := token.kind = .endOfInput

end Munch
