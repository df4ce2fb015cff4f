import Munch.Text

/-! # Keywords

The nineteen reserved words of the language, the names of its built-in types among them. A word is a
keyword only in its exact spelling, capitals included. -/
set_option autoImplicit false

namespace Munch

inductive Keyword where
  | kwLet
  | kwVar
  | kwFunc
  | kwReturn
  | kwIf
  | kwElse
  | kwSwitch
  | kwCase
  | kwDefault
  | kwFor
  | kwIn
  | kwWhile
  | kwRepeat
  | kwStruct
  | kwVoid
  | kwInt
  | kwDouble
  | kwBool
  | kwString
deriving DecidableEq, Repr

namespace Keyword

def all : List Keyword :=
  [kwLet, kwVar, kwFunc, kwReturn, kwIf, kwElse, kwSwitch, kwCase, kwDefault, kwFor, kwIn, kwWhile,
    kwRepeat, kwStruct, kwVoid, kwInt, kwDouble, kwBool, kwString]

def spelling : Keyword → Text
  | kwLet => "let".toList
  | kwVar => "var".toList
  | kwFunc => "func".toList
  | kwReturn => "return".toList
  | kwIf => "if".toList
  | kwElse => "else".toList
  | kwSwitch => "switch".toList
  | kwCase => "case".toList
  | kwDefault => "default".toList
  | kwFor => "for".toList
  | kwIn => "in".toList
  | kwWhile => "while".toList
  | kwRepeat => "repeat".toList
  | kwStruct => "struct".toList
  | kwVoid => "Void".toList
  | kwInt => "Int".toList
  | kwDouble => "Double".toList
  | kwBool => "Bool".toList
  | kwString => "String".toList

def ofSpelling? (word : Text) : Option Keyword :=
  all.find? fun keyword => keyword.spelling == word

def index (keyword : Keyword) : Nat := all.idxOf keyword

def title (keyword : Keyword) : Text := keyword.spelling.modifyHead Char.toUpper

theorem mem_all (keyword : Keyword) : keyword ∈ all := by
  cases keyword <;> decide

@[simp] theorem ofSpelling?_spelling (keyword : Keyword) :
    ofSpelling? keyword.spelling = some keyword := by
  cases keyword <;> rfl

theorem ofSpelling?_eq_some_iff {word : Text} {keyword : Keyword} :
    ofSpelling? word = some keyword ↔ keyword.spelling = word := by
  constructor
  · intro found
    have holds := List.find?_some (show all.find? (fun k => k.spelling == word) = some keyword
      from found)
    exact eq_of_beq holds
  · rintro rfl
    exact ofSpelling?_spelling keyword

theorem spelling_injective {first second : Keyword}
    (same : first.spelling = second.spelling) : first = second := by
  have found := ofSpelling?_eq_some_iff.mpr same
  rw [ofSpelling?_spelling] at found
  exact (Option.some.inj found).symm

end Keyword

end Munch
