import Munch.Settings.Problem

/-! # Strings in a settings file

A JSON string is read behind its opening mark. Escapes are decoded, those by number in pairs where
one alone is half of a character; a control character may stand in it only as an escape. -/
set_option autoImplicit false

namespace Munch.Settings

abbrev Outcome (α : Type) := Except Failure (α × Text)

def hexDigit? (char : Char) : Option Nat :=
  if '0' ≤ char ∧ char ≤ '9' then some (char.toNat - '0'.toNat)
  else if 'a' ≤ char ∧ char ≤ 'f' then some (char.toNat - 'a'.toNat + 10)
  else if 'A' ≤ char ∧ char ≤ 'F' then some (char.toNat - 'A'.toNat + 10)
  else none

def hexNumber? : Text → Option (Nat × Text)
  | first :: second :: third :: fourth :: rest => do
    let first ← hexDigit? first
    let second ← hexDigit? second
    let third ← hexDigit? third
    let fourth ← hexDigit? fourth
    return (((first * 16 + second) * 16 + third) * 16 + fourth, rest)
  | _ => none

/-- Reads four hexadecimal digits. Fewer than four bytes are an end that comes too early. -/
def readHexNumber (text : Text) : Outcome Nat :=
  match hexNumber? text with
  | some (number, rest) => .ok (number, rest)
  | none =>
    if 4 ≤ text.utf8Length then .error ⟨.invalidEscape, text, 4⟩
    else .error ⟨.endInString, [], 0⟩

def isHighSurrogate (unit : Nat) : Bool := 0xD800 ≤ unit && unit ≤ 0xDBFF

def isLowSurrogate (unit : Nat) : Bool := 0xDC00 ≤ unit && unit ≤ 0xDFFF

def joinSurrogates (high low : Nat) : Char :=
  Char.ofNat (0x10000 + (high - 0xD800) * 0x400 + (low - 0xDC00))

def readLowHalf (high : Nat) (text : Text) : Outcome Char :=
  match readHexNumber text with
  | .error failure => .error failure
  | .ok (low, rest) =>
    if isLowSurrogate low then .ok (joinSurrogates high low, rest)
    else .error ⟨.unpairedLowSurrogate, rest, 0⟩

def readLowSurrogate (high : Nat) (text : Text) : Outcome Char :=
  match text with
  | [] => .error ⟨.endInString, [], 0⟩
  | [char] =>
    if char = '\\' then .error ⟨.endInString, [], 0⟩
    else .error ⟨.unpairedHighSurrogate, [char], 1⟩
  | char :: letter :: rest =>
    if char ≠ '\\' then .error ⟨.unpairedHighSurrogate, text, 1⟩
    else if letter ≠ 'u' then .error ⟨.unpairedHighSurrogate, letter :: rest, 1⟩
    else readLowHalf high rest

def readNumericEscape (text : Text) : Outcome Char :=
  match readHexNumber text with
  | .error failure => .error failure
  | .ok (unit, rest) =>
    if isLowSurrogate unit then .error ⟨.unpairedLowSurrogate, rest, 0⟩
    else if isHighSurrogate unit then readLowSurrogate unit rest
    else .ok (Char.ofNat unit, rest)

def letterEscape? : Char → Option Char
  | '"' => some '"'
  | '\\' => some '\\'
  | '/' => some '/'
  | 'b' => some '\x08'
  | 'f' => some '\x0c'
  | 'n' => some '\n'
  | 'r' => some '\r'
  | 't' => some '\t'
  | _ => none

def readEscape (text : Text) : Outcome Char :=
  match text with
  | [] => .error ⟨.endInString, [], 0⟩
  | char :: rest =>
    if char = 'u' then readNumericEscape rest
    else
      match letterEscape? char with
      | some escaped => .ok (escaped, rest)
      | none => .error ⟨.invalidEscape, char :: rest, 1⟩

theorem length_of_hexNumber? {text rest : Text} {number : Nat}
    (found : hexNumber? text = some (number, rest)) : rest.length < text.length := by
  unfold hexNumber? at found
  split at found
  · simp only [Option.bind_eq_bind, Option.bind_eq_some_iff, Option.pure_def, Option.some.injEq,
      Prod.mk.injEq] at found
    obtain ⟨_, _, _, _, _, _, _, _, _, rfl⟩ := found
    simp only [List.length_cons]
    omega
  · contradiction

theorem length_of_readHexNumber {text rest : Text} {number : Nat}
    (read : readHexNumber text = .ok (number, rest)) : rest.length < text.length := by
  unfold readHexNumber at read
  split at read
  · rename_i found
    cases read
    exact length_of_hexNumber? found
  · split at read <;> contradiction

theorem length_of_readLowHalf {high : Nat} {text rest : Text} {char : Char}
    (read : readLowHalf high text = .ok (char, rest)) : rest.length < text.length := by
  unfold readLowHalf at read
  split at read
  · contradiction
  · rename_i step
    split at read
    · simp only [Except.ok.injEq, Prod.mk.injEq] at read
      obtain ⟨-, rfl⟩ := read
      exact length_of_readHexNumber step
    · contradiction

theorem length_of_readLowSurrogate {high : Nat} {text rest : Text} {char : Char}
    (read : readLowSurrogate high text = .ok (char, rest)) : rest.length < text.length := by
  unfold readLowSurrogate at read
  split at read
  · contradiction
  · split at read <;> contradiction
  · split at read
    · contradiction
    · split at read
      · contradiction
      · have shorter := length_of_readLowHalf read
        simp only [List.length_cons]
        omega

theorem length_of_readNumericEscape {text rest : Text} {char : Char}
    (read : readNumericEscape text = .ok (char, rest)) : rest.length < text.length := by
  unfold readNumericEscape at read
  split at read
  · contradiction
  · rename_i step
    have shorter := length_of_readHexNumber step
    split at read
    · contradiction
    · split at read
      · have shortest := length_of_readLowSurrogate read
        omega
      · simp only [Except.ok.injEq, Prod.mk.injEq] at read
        obtain ⟨-, rfl⟩ := read
        exact shorter

theorem length_of_readEscape {text rest : Text} {char : Char}
    (read : readEscape text = .ok (char, rest)) : rest.length < text.length := by
  unfold readEscape at read
  split at read
  · contradiction
  · split at read
    · have shorter := length_of_readNumericEscape read
      simp only [List.length_cons]
      omega
    · split at read
      · simp only [Except.ok.injEq, Prod.mk.injEq] at read
        obtain ⟨-, rfl⟩ := read
        simp
      · contradiction

def readQuotedFrom (read : Text) (text : Text) : Outcome Text :=
  match text with
  | [] => .error ⟨.endInString, [], 0⟩
  | char :: rest =>
    if char = '"' then .ok (read.reverse, rest)
    else if char = '\\' then
      match step : readEscape rest with
      | .error failure => .error failure
      | .ok (escaped, behind) =>
        have := length_of_readEscape step
        readQuotedFrom (escaped :: read) behind
    else if char.toNat < 0x20 then .error ⟨.controlCharacter, rest, 0⟩
    else readQuotedFrom (char :: read) rest
termination_by text.length

def readQuoted (text : Text) : Outcome Text := readQuotedFrom [] text

theorem length_of_readQuotedFrom {read text content rest : Text}
    (done : readQuotedFrom read text = .ok (content, rest)) : rest.length < text.length := by
  fun_induction readQuotedFrom read text with
  | case1 => contradiction
  | case2 =>
    cases done
    simp
  | case3 => contradiction
  | case4 read rest mark escaped behind step shorter ih =>
    have less := ih done
    simp only [List.length_cons]
    omega
  | case5 => contradiction
  | case6 read char rest mark escape control ih =>
    have less := ih done
    simp only [List.length_cons]
    omega

theorem length_of_readQuoted {text content rest : Text}
    (done : readQuoted text = .ok (content, rest)) : rest.length < text.length :=
  length_of_readQuotedFrom done

end Munch.Settings
