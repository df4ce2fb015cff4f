import Munch.Text.Quoted

/-! # What can be wrong with a settings file

Settings are written as a JSON value. A problem with the text has a wording, a category and a place,
which is that of the first character not read yet, or a few bytes behind it. -/
set_option autoImplicit false

namespace Munch

inductive Field where
  | words
  | strictNumbers
deriving DecidableEq, Repr

def Field.name : Field → Text
  | .words => "keywords".toList
  | .strictNumbers => "strict_numbers".toList

def Field.ofName? (name : Text) : Option Field :=
  [Field.words, Field.strictNumbers].find? fun field => field.name == name

namespace Settings

inductive Found where
  | null
  | boolean (value : Bool)
  | integer (negative : Bool) (magnitude : Nat)
  | floating (written : Text)
  | string (content : Text)
  | list
  | object
deriving DecidableEq, Repr

inductive Wanted where
  | settings
  | list
  | string
  | boolean
deriving DecidableEq, Repr

inductive Problem where
  | endInValue
  | endInObject
  | endInList
  | endInString
  | expectedValue
  | expectedLiteral
  | expectedColon
  | expectedCommaOrBrace
  | expectedCommaOrBracket
  | trailingComma
  | trailingCharacters
  | keyNotString
  | controlCharacter
  | invalidEscape
  | unpairedHighSurrogate
  | unpairedLowSurrogate
  | invalidNumber
  | numberOutOfRange
  | unknownField (name : Text)
  | duplicateField (field : Field)
  | wrongType (found : Found) (wanted : Wanted)
deriving DecidableEq, Repr

/-- Whether the text ends too early, is no JSON, or is JSON that says something else. -/
inductive Category where
  | endOfText
  | form
  | content
deriving DecidableEq, Repr

def ticked (text : Text) : Text := '\x60' :: text ++ ['\x60']

def Found.describe : Found → Text
  | .null => "null".toList
  | .boolean value => "boolean ".toList ++ ticked (if value then "true" else "false").toList
  | .integer negative magnitude =>
    "integer ".toList ++ ticked ((if negative then ['-'] else []) ++ Text.ofNat magnitude)
  | .floating written => "floating point ".toList ++ ticked written
  | .string content => "string ".toList ++ content.quoted
  | .list => "sequence".toList
  | .object => "map".toList

def Wanted.describe : Wanted → Text
  | .settings => "struct ConfigFile".toList
  | .list => "a sequence".toList
  | .string => "a string".toList
  | .boolean => "a boolean".toList

namespace Problem

def message : Problem → Text
  | endInValue => "EOF while parsing a value".toList
  | endInObject => "EOF while parsing an object".toList
  | endInList => "EOF while parsing a list".toList
  | endInString => "EOF while parsing a string".toList
  | expectedValue => "expected value".toList
  | expectedLiteral => "expected ident".toList
  | expectedColon => "expected ".toList ++ ticked [':']
  | expectedCommaOrBrace => "expected ".toList ++ ticked [','] ++ " or ".toList ++ ticked ['}']
  | expectedCommaOrBracket => "expected ".toList ++ ticked [','] ++ " or ".toList ++ ticked [']']
  | trailingComma => "trailing comma".toList
  | trailingCharacters => "trailing characters".toList
  | keyNotString => "key must be a string".toList
  | controlCharacter =>
    "control character (\\u0000-\\u001F) found while parsing a string".toList
  | invalidEscape => "invalid escape".toList
  | unpairedHighSurrogate => "unexpected end of hex escape".toList
  | unpairedLowSurrogate => "lone leading surrogate in hex escape".toList
  | invalidNumber => "invalid number".toList
  | numberOutOfRange => "number out of range".toList
  | unknownField name => "unknown field ".toList ++ ticked name ++ ", expected ".toList ++
      ticked Field.words.name ++ " or ".toList ++ ticked Field.strictNumbers.name
  | duplicateField field => "duplicate field ".toList ++ ticked field.name
  | wrongType found wanted =>
    "invalid type: ".toList ++ found.describe ++ ", expected ".toList ++ wanted.describe

def category : Problem → Category
  | endInValue | endInObject | endInList | endInString => .endOfText
  | unknownField _ | duplicateField _ | wrongType _ _ => .content
  | _ => .form

end Problem

/-- A problem, the text not read yet, and how many bytes of it the place lies behind its front. -/
structure Failure where
  problem : Problem
  rest : Text
  ahead : Nat := 0
deriving DecidableEq, Repr

/-- A place in a settings file: lines from 1, and the number of bytes before it on its line. -/
structure Place where
  line : Nat
  column : Nat
deriving DecidableEq, Repr

def Place.behind (place : Place) : Nat → Text → Place
  | 0, _ => place
  | _, [] => place
  | bytes + 1, char :: rest =>
    if char = '\n' then Place.behind ⟨place.line + 1, 0⟩ bytes rest
    else Place.behind ⟨place.line, place.column + min char.utf8Size (bytes + 1)⟩
      (bytes + 1 - char.utf8Size) rest

def Failure.place (failure : Failure) (text : Text) : Place :=
  Place.behind ⟨1, 0⟩ (text.utf8Length - failure.rest.utf8Length + failure.ahead) text

def Place.suffix (place : Place) : Text :=
  " at line ".toList ++ Text.ofNat place.line ++ " column ".toList ++ Text.ofNat place.column

end Settings

end Munch
