import Munch.Settings
import Munch.Settings.Numeral

/-! # Reading settings

Settings are written as an object with at most the two known fields, each at most once, or as a list
of their values in the order of the fields. `null` stands for a missing part. Reading goes from left
to right and stops at the first problem. -/
set_option autoImplicit false

namespace Munch.Settings

def isBlank (char : Char) : Bool :=
  char == ' ' || char == '\t' || char == '\n' || char == '\r'

def skipBlanks (text : Text) : Text := text.dropWhile isBlank

def readLiteral (letters : Text) (text : Text) : Except Failure Text :=
  match letters, text with
  | [], _ => .ok text
  | _ :: _, [] => .error ⟨.endInValue, [], 0⟩
  | letter :: letters, char :: rest =>
    if char = letter then readLiteral letters rest else .error ⟨.expectedLiteral, text, 1⟩

/-- The failure at a value that is of no use where it stands. It is read far enough to be named. -/
def rejectValue (wanted : Wanted) (text : Text) : Failure :=
  let name (found : Found) (rest : Text) : Failure := ⟨.wrongType found wanted, rest, 0⟩
  let literal (found : Found) (letters rest : Text) : Failure :=
    match readLiteral letters rest with
    | .ok behind => name found behind
    | .error failure => failure
  let numeral (outcome : Outcome Found) : Failure :=
    match outcome with
    | .ok (found, behind) => name found behind
    | .error failure => failure
  match text with
  | [] => ⟨.endInValue, [], 0⟩
  | char :: rest =>
    if char = 'n' then literal .null ['u', 'l', 'l'] rest
    else if char = 't' then literal (.boolean true) ['r', 'u', 'e'] rest
    else if char = 'f' then literal (.boolean false) ['a', 'l', 's', 'e'] rest
    else if char = '-' then numeral (readNumeral true rest)
    else if char.isDigit then numeral (readNumeral false text)
    else if char = '"' then
      match readQuoted rest with
      | .ok (content, behind) => name (.string content) behind
      | .error failure => failure
    else if char = '[' then name .list text
    else if char = '{' then name .object text
    else ⟨.expectedValue, text, 1⟩

/-- Where an element of a list begins, if there is another. The list's opening bracket, or an
element, stands before the text. -/
def nextElement? (first : Bool) (text : Text) : Except Failure (Option Text) :=
  match skipBlanks text with
  | [] => .error ⟨.endInList, [], 0⟩
  | char :: rest =>
    if char = ']' then .ok none
    else if first then .ok (some (char :: rest))
    else if char = ',' then
      match skipBlanks rest with
      | [] => .error ⟨.endInValue, [], 0⟩
      | next :: behind =>
        if next = ']' then .error ⟨.trailingComma, next :: behind, 1⟩
        else .ok (some (next :: behind))
    else .error ⟨.expectedCommaOrBracket, char :: rest, 1⟩

def closeList (text : Text) : Except Failure Text :=
  match skipBlanks text with
  | [] => .error ⟨.endInList, [], 0⟩
  | char :: rest =>
    if char = ']' then .ok rest
    else if char = ',' then
      let behind := skipBlanks rest
      if behind.head? = some ']' then .error ⟨.trailingComma, behind, 1⟩
      else .error ⟨.trailingCharacters, behind, 1⟩
    else .error ⟨.trailingCharacters, char :: rest, 1⟩

theorem length_skipBlanks_le (text : Text) : (skipBlanks text).length ≤ text.length :=
  (List.dropWhile_sublist isBlank).length_le

theorem length_of_nextElement? {first : Bool} {text element : Text}
    (found : nextElement? first text = .ok (some element)) : element.length ≤ text.length := by
  have blanks := length_skipBlanks_le text
  unfold nextElement? at found
  split at found
  · contradiction
  · rename_i char rest shape
    rw [shape, List.length_cons] at blanks
    split at found
    · simp at found
    · split at found
      · simp only [Except.ok.injEq, Option.some.injEq] at found
        subst found
        simpa using blanks
      · split at found
        · have more := length_skipBlanks_le rest
          split at found
          · contradiction
          · rename_i next behind shape
            rw [shape] at more
            split at found
            · contradiction
            · simp only [Except.ok.injEq, Option.some.injEq] at found
              subst found
              omega
        · contradiction

def readWordsFrom (first : Bool) (read : List Text) (text : Text) : Outcome (List Text) :=
  match next : nextElement? first text with
  | .error failure => .error failure
  | .ok none =>
    match closeList text with
    | .error failure => .error failure
    | .ok rest => .ok (read.reverse, rest)
  | .ok (some []) => .error ⟨.endInValue, [], 0⟩
  | .ok (some (char :: rest)) =>
    if char = '"' then
      match step : readQuoted rest with
      | .error failure => .error failure
      | .ok (word, behind) =>
        have := length_of_nextElement? next
        have := length_of_readQuoted step
        readWordsFrom false (word :: read) behind
    else .error (rejectValue .string (char :: rest))
termination_by text.length
decreasing_by
  simp only [List.length_cons] at *
  omega

def readOptional {α : Type} (read : Text → Outcome α) (text : Text) : Outcome (Option α) :=
  match skipBlanks text with
  | [] => .error ⟨.endInValue, [], 0⟩
  | char :: rest =>
    if char = 'n' then
      match readLiteral ['u', 'l', 'l'] rest with
      | .error failure => .error failure
      | .ok behind => .ok (none, behind)
    else
      match read (char :: rest) with
      | .error failure => .error failure
      | .ok (value, behind) => .ok (some value, behind)

def readWords (text : Text) : Outcome (List Text) :=
  match text with
  | '[' :: rest => readWordsFrom true [] rest
  | _ => .error (rejectValue .list text)

def readFlag (text : Text) : Outcome Bool :=
  let literal (value : Bool) (letters rest : Text) : Outcome Bool :=
    match readLiteral letters rest with
    | .error failure => .error failure
    | .ok behind => .ok (value, behind)
  match text with
  | 't' :: rest => literal true ['r', 'u', 'e'] rest
  | 'f' :: rest => literal false ['a', 'l', 's', 'e'] rest
  | _ => .error (rejectValue .boolean text)

def readField (settings : Settings) (field : Field) (text : Text) : Outcome Settings :=
  match field with
  | .words =>
    match readOptional readWords text with
    | .error failure => .error failure
    | .ok (words, rest) => .ok ({ settings with words := words }, rest)
  | .strictNumbers =>
    match readOptional readFlag text with
    | .error failure => .error failure
    | .ok (strict, rest) => .ok ({ settings with strictNumbers := strict }, rest)

/-- The text that is left when a key is refused: the blanks behind it and a closing brace have been
passed. -/
def behindRefusedKey (text : Text) : Text :=
  match skipBlanks text with
  | '}' :: rest => rest
  | rest => rest

def readColon (text : Text) : Except Failure Text :=
  match skipBlanks text with
  | [] => .error ⟨.endInObject, [], 0⟩
  | char :: rest =>
    if char = ':' then .ok rest else .error ⟨.expectedColon, char :: rest, 1⟩

def openKey (text : Text) : Except Failure Text :=
  match text with
  | [] => .error ⟨.endInValue, [], 0⟩
  | char :: rest =>
    if char = '"' then .ok rest
    else if char = '}' then .error ⟨.trailingComma, text, 1⟩
    else .error ⟨.keyNotString, text, 1⟩

/-- Where the key of an object's next member begins, behind its opening mark, or what is left behind
the closing brace. The object's opening brace, or a member, stands before the text. -/
def nextKey (first : Bool) (text : Text) : Except Failure (Text ⊕ Text) :=
  match skipBlanks text with
  | [] => .error ⟨.endInObject, [], 0⟩
  | char :: rest =>
    if char = '}' then .ok (.inr rest)
    else if first then (openKey (char :: rest)).map .inl
    else if char = ',' then (openKey (skipBlanks rest)).map .inl
    else .error ⟨.expectedCommaOrBrace, char :: rest, 1⟩

/-- Reads a key behind its opening mark, and the colon behind it. The key must be the name of one of
the fields that have not been read yet. -/
def readKey (unread : List Field) (text : Text) : Outcome Field :=
  match readQuoted text with
  | .error failure => .error failure
  | .ok (name, rest) =>
    match Field.ofName? name with
    | none => .error ⟨.unknownField name, behindRefusedKey rest, 0⟩
    | some field =>
      if field ∈ unread then
        match readColon rest with
        | .error failure => .error failure
        | .ok behind => .ok (field, behind)
      else .error ⟨.duplicateField field, behindRefusedKey rest, 0⟩

theorem mem_of_readKey {unread : List Field} {text rest : Text} {field : Field}
    (read : readKey unread text = .ok (field, rest)) : field ∈ unread := by
  unfold readKey at read
  repeat' split at read
  all_goals try contradiction
  rename_i member _ _ _
  simp only [Except.ok.injEq, Prod.mk.injEq] at read
  obtain ⟨rfl, -⟩ := read
  exact member

def readMembers (unread : List Field) (first : Bool) (settings : Settings) (text : Text) :
    Outcome Settings :=
  match nextKey first text with
  | .error failure => .error failure
  | .ok (.inr rest) => .ok (settings, rest)
  | .ok (.inl key) =>
    match known : readKey unread key with
    | .error failure => .error failure
    | .ok (field, value) =>
      match readField settings field value with
      | .error failure => .error failure
      | .ok (settings, rest) =>
        have := List.length_erase_of_mem (mem_of_readKey known)
        have := List.length_pos_of_mem (mem_of_readKey known)
        readMembers (unread.erase field) false settings rest
termination_by unread.length

def readObject (text : Text) : Outcome Settings :=
  readMembers [.words, .strictNumbers] true {} text

def readElement (first : Bool) (settings : Settings) (field : Field) (text : Text) :
    Outcome Settings :=
  match nextElement? first text with
  | .error failure => .error failure
  | .ok none => .ok (settings, text)
  | .ok (some element) => readField settings field element

def readPositional (text : Text) : Outcome Settings :=
  match readElement true {} .words text with
  | .error failure => .error failure
  | .ok (settings, rest) =>
    match readElement false settings .strictNumbers rest with
    | .error failure => .error failure
    | .ok (settings, behind) =>
      match closeList behind with
      | .error failure => .error failure
      | .ok outside => .ok (settings, outside)

def readEither (text : Text) : Outcome Settings :=
  match skipBlanks text with
  | [] => .error ⟨.endInValue, [], 0⟩
  | char :: rest =>
    if char = '{' then readObject rest
    else if char = '[' then readPositional rest
    else .error (rejectValue .settings (char :: rest))

def read (text : Text) : Except Failure Settings :=
  match readEither text with
  | .error failure => .error failure
  | .ok (settings, rest) =>
    match skipBlanks rest with
    | [] => .ok settings
    | behind => .error ⟨.trailingCharacters, behind, 1⟩

end Munch.Settings
