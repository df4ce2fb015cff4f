import Munch.CodePoint.Extending
import Munch.CodePoint.Unprintable
import Munch.Text

/-! # Quoted text

How characters and texts from a source are shown in messages and listings: between quotation marks,
on one line, with everything escaped that would not be seen as itself. -/
set_option autoImplicit false

namespace Munch.Text

def bracedHex (char : Char) : Text :=
  '\\' :: 'u' :: '{' :: Nat.toDigits 16 char.toNat ++ ['}']

/-- One character as it stands inside the given quotation mark. The mark itself and the backslash
take a backslash, four controls have a letter, and what is unprintable or would join the character
before it is written as a number. -/
def escapeWithin (mark char : Char) : Text :=
  if char = '\x00' then ['\\', '0']
  else if char = '\t' then ['\\', 't']
  else if char = '\r' then ['\\', 'r']
  else if char = '\n' then ['\\', 'n']
  else if char = '\\' then ['\\', '\\']
  else if char = mark then ['\\', char]
  else if isExtending char || isUnprintable char then bracedHex char
  else [char]

def quotedChar (char : Char) : Text :=
  '\'' :: escapeWithin '\'' char ++ ['\'']

def quoted (text : Text) : Text :=
  '"' :: text.flatMap (escapeWithin '"') ++ ['"']

end Munch.Text
