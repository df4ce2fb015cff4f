import Munch.Text

/-! # JSON for output

A small tree of JSON values and its layout over several lines: two blanks for each level, one
element or member a line. Only what cannot stand in a JSON string is escaped in one. -/
set_option autoImplicit false

namespace Munch

inductive Json where
  | number (value : Nat)
  | boolean (value : Bool)
  | string (content : Text)
  | list (elements : List Json)
  | object (members : List (Text × Json))

namespace Json

def escape (char : Char) : Text :=
  if char = '"' then ['\\', '"']
  else if char = '\\' then ['\\', '\\']
  else if char = '\x08' then ['\\', 'b']
  else if char = '\t' then ['\\', 't']
  else if char = '\n' then ['\\', 'n']
  else if char = '\x0c' then ['\\', 'f']
  else if char = '\r' then ['\\', 'r']
  else if char.toNat < 0x20 then
    ['\\', 'u', '0', '0', Nat.digitChar (char.toNat / 16), Nat.digitChar (char.toNat % 16)]
  else [char]

def quote (content : Text) : Text := '"' :: content.flatMap escape ++ ['"']

def newline (level : Nat) : Text := '\n' :: List.replicate (2 * level) ' '

mutual

def layout (level : Nat) : Json → Text
  | .number value => Text.ofNat value
  | .boolean true => "true".toList
  | .boolean false => "false".toList
  | .string content => quote content
  | .list [] => ['[', ']']
  | .list (element :: rest) =>
    '[' :: newline (level + 1) ++ element.layout (level + 1) ++ layoutElements (level + 1) rest ++
      newline level ++ [']']
  | .object [] => ['{', '}']
  | .object ((name, value) :: rest) =>
    '{' :: newline (level + 1) ++ quote name ++ [':', ' '] ++ value.layout (level + 1) ++
      layoutMembers (level + 1) rest ++ newline level ++ ['}']

def layoutElements (level : Nat) : List Json → Text
  | [] => []
  | element :: rest =>
    ',' :: newline level ++ element.layout level ++ layoutElements level rest

def layoutMembers (level : Nat) : List (Text × Json) → Text
  | [] => []
  | (name, value) :: rest =>
    ',' :: newline level ++ quote name ++ [':', ' '] ++ value.layout level ++
      layoutMembers level rest

end

end Json

end Munch
