import Munch.Decimal
import Munch.Settings.QuotedText

/-! # Numbers in a settings file

No part of the settings is a number, but a number in the wrong place is named in the message, so it
is read in full. A whole number that fits 64 bits stays whole; every other number becomes a binary
float, of whose digits those that no longer fit 64 bits are dropped. -/
set_option autoImplicit false

namespace Munch.Settings

def greatestSignificand : Nat := Nat.pow 2 64 - 1

def greatestExponent : Nat := Nat.pow 2 31 - 1

def digitValue (char : Char) : Nat := char.toNat - '0'.toNat

def dropDigits (text : Text) : Text := text.dropWhile Char.isDigit

def floating (negative : Bool) (significand : Nat) (power : Int) (rest : Text) : Outcome Found :=
  match (Binary.ofQuotient significand 1).scale power with
  | none => .error ⟨.numberOutOfRange, rest, 0⟩
  | some number =>
    .ok (.floating ((if negative then ['-'] else []) ++ number.display), rest)

/-- Reads the digits of an exponent behind those read before. One that is too large makes the number
zero or too large. -/
def readExponentDigits (negative : Bool) (significand : Nat) (power : Int) (down : Bool)
    (exponent : Nat) (text : Text) : Outcome Found :=
  let finished := floating negative significand
    (if down then power - exponent else power + exponent) text
  match text with
  | [] => finished
  | char :: rest =>
    if char.isDigit then
      let longer := exponent * 10 + digitValue char
      if greatestExponent < longer then
        if significand ≠ 0 ∧ down = false then .error ⟨.numberOutOfRange, rest, 0⟩
        else floating negative 0 0 (dropDigits rest)
      else readExponentDigits negative significand power down longer rest
    else finished

def readUnsignedExponent (negative : Bool) (significand : Nat) (power : Int) (down : Bool)
    (text : Text) : Outcome Found :=
  match text with
  | [] => .error ⟨.endInValue, [], 0⟩
  | char :: rest =>
    if char.isDigit then
      readExponentDigits negative significand power down (digitValue char) rest
    else .error ⟨.invalidNumber, text, 1⟩

def readExponent (negative : Bool) (significand : Nat) (power : Int) (text : Text) :
    Outcome Found :=
  match text with
  | '+' :: rest => readUnsignedExponent negative significand power false rest
  | '-' :: rest => readUnsignedExponent negative significand power true rest
  | _ => readUnsignedExponent negative significand power false text

def readAfterFraction (negative : Bool) (significand : Nat) (power : Int) (text : Text) :
    Outcome Found :=
  match text with
  | 'e' :: rest => readExponent negative significand power rest
  | 'E' :: rest => readExponent negative significand power rest
  | _ => floating negative significand power text

def readFraction (negative : Bool) (significand : Nat) (power : Int) (count : Nat) (text : Text) :
    Outcome Found :=
  match text with
  | [] =>
    if count = 0 then .error ⟨.endInValue, [], 0⟩
    else floating negative significand (power - count) []
  | char :: rest =>
    if char.isDigit then
      let longer := significand * 10 + digitValue char
      if greatestSignificand < longer then
        readAfterFraction negative significand (power - count) (dropDigits text)
      else readFraction negative longer power (count + 1) rest
    else if count = 0 then .error ⟨.invalidNumber, text, 1⟩
    else readAfterFraction negative significand (power - count) text

def readLongWhole (negative : Bool) (significand : Nat) (count : Nat) (text : Text) :
    Outcome Found :=
  match text with
  | [] => floating negative significand count []
  | char :: rest =>
    if char.isDigit then readLongWhole negative significand (count + 1) rest
    else if char = '.' then readFraction negative significand count 0 rest
    else if char = 'e' ∨ char = 'E' then readExponent negative significand count rest
    else floating negative significand count text

/-- Reads what may stand behind the whole part of a number: a fraction or an exponent. A negative
zero and a number below the least 64-bit integer are no whole numbers. -/
def readAfterWhole (negative : Bool) (significand : Nat) (text : Text) : Outcome Found :=
  match text with
  | '.' :: rest => readFraction negative significand 0 0 rest
  | 'e' :: rest => readExponent negative significand 0 rest
  | 'E' :: rest => readExponent negative significand 0 rest
  | _ =>
    if negative && (significand == 0 || Nat.pow 2 63 < significand) then
      floating negative significand 0 text
    else .ok (.integer negative significand, text)

def readWhole (negative : Bool) (significand : Nat) (text : Text) : Outcome Found :=
  match text with
  | [] => readAfterWhole negative significand []
  | char :: rest =>
    if char.isDigit then
      let longer := significand * 10 + digitValue char
      if greatestSignificand < longer then readLongWhole negative significand 0 text
      else readWhole negative longer rest
    else readAfterWhole negative significand text

/-- Reads a number behind its sign. A zero in front is its only digit. -/
def readNumeral (negative : Bool) (text : Text) : Outcome Found :=
  match text with
  | [] => .error ⟨.endInValue, [], 0⟩
  | char :: rest =>
    if char = '0' then
      if rest.head?.any Char.isDigit then .error ⟨.invalidNumber, rest, 1⟩
      else readAfterWhole negative 0 rest
    else if char.isDigit then readWhole negative (digitValue char) rest
    else .error ⟨.invalidNumber, text, 1⟩

end Munch.Settings
