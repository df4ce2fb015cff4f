import Munch.Json
import Munch.Token

/-! # Listings of tokens

Tokens are listed one a line, or as a JSON list. A line holds the place, the name of the kind and
the quoted lexeme between tabs; the JSON form holds the content of a literal too. -/
set_option autoImplicit false

namespace Munch

def Position.toJson (position : Position) : Json :=
  .object [("offset".toList, .number position.offset), ("line".toList, .number position.line),
    ("column".toList, .number position.column)]

def Kind.content? : Kind → Option Json
  | .keyword word => some (.string word.spelling)
  | .integer digits => some (.string digits)
  | .floating digits => some (.string digits)
  | .string content => some (.string content)
  | .boolean value => some (.boolean value)
  | .identifier | .operator _ | .endOfInput => none

def Kind.toJson (kind : Kind) : Json :=
  let name := ("kind".toList, Json.string kind.tag)
  match kind.content? with
  | some content => .object [name, ("value".toList, content)]
  | none => .object [name]

def Token.toJson (token : Token) : Json :=
  .object [("kind".toList, token.kind.toJson), ("lexeme".toList, .string token.lexeme),
    ("start".toList, token.start.toJson), ("end".toList, token.stop.toJson)]

def Token.line (token : Token) : Text :=
  token.start.display ++ '\t' :: token.kind.name ++ '\t' :: token.lexeme.quoted

def lineListing (tokens : List Token) : Text :=
  tokens.flatMap fun token => token.line ++ ['\n']

def jsonListing (write : Json → Text) (tokens : List Token) : Text :=
  write (.list (tokens.map Token.toJson)) ++ ['\n']

end Munch
