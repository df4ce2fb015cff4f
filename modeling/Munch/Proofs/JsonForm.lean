import Munch.Text

/-! # The form of JSON

Which texts are JSON (RFC 8259), and which values they write, said without reading them. Each rule
says how a value is spelled, and nearly every value can be spelled in many ways: a character of a
string by itself, by a letter or by numbers, and blanks between any two marks. -/
set_option autoImplicit false

namespace Munch

def Blanks (text : Text) : Prop := ∀ char ∈ text, char ∈ [' ', '\t', '\n', '\r']

theorem Blanks.append {front behind : Text} (blank : Blanks front) (free : Blanks behind) :
    Blanks (front ++ behind) := by
  intro char member
  rcases List.mem_append.mp member with member | member
  · exact blank char member
  · exact free char member

theorem Blanks.forall_mem {blanks : Text} (blank : Blanks blanks) {test : Char → Bool}
    (each : [' ', '\t', '\n', '\r'].all test = true) : ∀ char ∈ blanks, test char = true :=
  fun char member => List.all_eq_true.mp each char (blank char member)

/-! ## Strings -/

def SpellsDigit (value : Nat) (char : Char) : Prop :=
  value < 16 ∧ (char = Nat.digitChar value ∨ char = (Nat.digitChar value).toUpper)

inductive SpellsNumber : Nat → Text → Prop where
  | digits {first second third fourth : Nat} {a b c d : Char} (one : SpellsDigit first a)
      (two : SpellsDigit second b) (three : SpellsDigit third c) (four : SpellsDigit fourth d) :
      SpellsNumber (((first * 16 + second) * 16 + third) * 16 + fourth) [a, b, c, d]

def escapeLetters : List (Char × Char) :=
  [('"', '"'), ('\\', '\\'), ('/', '/'), ('b', '\x08'), ('f', '\x0c'), ('n', '\n'), ('r', '\r'),
    ('t', '\t')]

/-- A character within a string: by itself unless it is a mark, a backslash or a control character,
by a letter, by its number, or by the numbers of its two halves. A half alone is no character. -/
inductive SpellsChar : Char → Text → Prop where
  | plain {char : Char} (free : char ≠ '"' ∧ char ≠ '\\' ∧ 0x20 ≤ char.toNat) :
      SpellsChar char [char]
  | letter {char letter : Char} (stands : (letter, char) ∈ escapeLetters) :
      SpellsChar char ['\\', letter]
  | number {char : Char} {digits : Text} (spells : SpellsNumber char.toNat digits) :
      SpellsChar char ('\\' :: 'u' :: digits)
  | halves {char : Char} {high low : Nat} {first second : Text}
      (isHigh : 0xD800 ≤ high ∧ high ≤ 0xDBFF) (isLow : 0xDC00 ≤ low ∧ low ≤ 0xDFFF)
      (joined : char.toNat = 0x10000 + (high - 0xD800) * 0x400 + (low - 0xDC00))
      (spellsHigh : SpellsNumber high first) (spellsLow : SpellsNumber low second) :
      SpellsChar char ('\\' :: 'u' :: first ++ '\\' :: 'u' :: second)

inductive SpellsChars : Text → Text → Prop where
  | nil : SpellsChars [] []
  | cons {char : Char} {chars front behind : Text} (first : SpellsChar char front)
      (rest : SpellsChars chars behind) : SpellsChars (char :: chars) (front ++ behind)

inductive SpellsString : Text → Text → Prop where
  | quoted {content inside : Text} (spells : SpellsChars content inside) :
      SpellsString content ('"' :: inside ++ ['"'])

theorem SpellsString.exists_inside {content text : Text} (spelled : SpellsString content text) :
    ∃ inside, text = '"' :: inside := by
  cases spelled
  exact ⟨_, rfl⟩

/-! ## Values between brackets -/

/-- What stands before a value in brackets: blanks, and a comma among them unless it is the first
value. -/
inductive SpellsLead : Bool → Text → Prop where
  | first {blanks : Text} (blank : Blanks blanks) : SpellsLead true blanks
  | later {before between : Text} (blank : Blanks before) (free : Blanks between) :
      SpellsLead false (before ++ ',' :: between)

theorem SpellsLead.append_blanks {first : Bool} {lead blanks : Text}
    (before : SpellsLead first lead) (blank : Blanks blanks) :
    SpellsLead first (lead ++ blanks) := by
  cases before with
  | first free => exact .first (free.append blank)
  | later free between =>
    rw [List.append_assoc, List.cons_append]
    exact .later free (between.append blank)

section

variable {α : Type} (spells : α → Text → Prop)

/-- Values up to the closing bracket, behind the opening one or behind other values. -/
inductive SpellsUpTo (closing : Char) : Bool → List α → Text → Prop where
  | close {first : Bool} {blanks : Text} (blank : Blanks blanks) :
      SpellsUpTo closing first [] (blanks ++ [closing])
  | next {first : Bool} {value : α} {values : List α} {before front behind : Text}
      (lead : SpellsLead first before) (spelled : spells value front)
      (more : SpellsUpTo closing false values behind) :
      SpellsUpTo closing first (value :: values) (before ++ front ++ behind)

inductive SpellsEnclosed (opening closing : Char) : List α → Text → Prop where
  | enclosed {values : List α} {text : Text}
      (spelled : SpellsUpTo spells closing true values text) :
      SpellsEnclosed opening closing values (opening :: text)

inductive SpellsNamed : Text × α → Text → Prop where
  | named {name key before between text : Text} {value : α} (isName : SpellsString name key)
      (blank : Blanks before) (free : Blanks between) (spelled : spells value text) :
      SpellsNamed (name, value) (key ++ before ++ ':' :: between ++ text)

end

/-! ## Values -/

inductive SpellsFlag : Bool → Text → Prop where
  | yes : SpellsFlag true ['t', 'r', 'u', 'e']
  | no : SpellsFlag false ['f', 'a', 'l', 's', 'e']

namespace Numeral

def IsDigits (text : Text) : Prop := text ≠ [] ∧ ∀ char ∈ text, char.isDigit = true

/-- A whole part has no zero in front of other digits. -/
def IsWhole (text : Text) : Prop := IsDigits text ∧ (text.head? = some '0' → text = ['0'])

inductive IsFraction : Text → Prop where
  | none : IsFraction []
  | point {digits : Text} (isDigits : IsDigits digits) : IsFraction ('.' :: digits)

inductive IsExponent : Text → Prop where
  | none : IsExponent []
  | power {mark : Char} {sign digits : Text} (isMark : mark = 'e' ∨ mark = 'E')
      (isSign : sign = [] ∨ sign = ['+'] ∨ sign = ['-']) (isDigits : IsDigits digits) :
      IsExponent (mark :: sign ++ digits)

end Numeral

open Numeral in
inductive IsNumeral : Text → Prop where
  | parts {sign whole fraction exponent : Text} (isSign : sign = [] ∨ sign = ['-'])
      (isWhole : IsWhole whole) (isFraction : IsFraction fraction)
      (isExponent : IsExponent exponent) : IsNumeral (sign ++ whole ++ fraction ++ exponent)

/-- A value of JSON. A number is kept as it is written, and an object keeps the order of its members
and may hold a name twice. -/
inductive JsonValue where
  | null
  | boolean (value : Bool)
  | number (written : Text)
  | string (content : Text)
  | list (elements : List JsonValue)
  | object (members : List (Text × JsonValue))

namespace JsonValue

inductive Written : JsonValue → Text → Prop where
  | null : Written .null ['n', 'u', 'l', 'l']
  | boolean {value : Bool} {text : Text} (spelled : SpellsFlag value text) :
      Written (.boolean value) text
  | number {text : Text} (isNumeral : IsNumeral text) : Written (.number text) text
  | string {content text : Text} (spelled : SpellsString content text) :
      Written (.string content) text
  | list {elements : List JsonValue} {text : Text}
      (spelled : SpellsUpTo Written ']' true elements text) :
      Written (.list elements) ('[' :: text)
  | object {members : List (Text × JsonValue)} {text : Text}
      (spelled : SpellsUpTo (SpellsNamed Written) '}' true members text) :
      Written (.object members) ('{' :: text)

inductive IsText (value : JsonValue) : Text → Prop where
  | around {before text behind : Text} (blank : Blanks before) (written : Written value text)
      (free : Blanks behind) : IsText value (before ++ text ++ behind)

end JsonValue

end Munch
