import Munch.Position
import Munch.Text.Quoted

/-! # Lexical errors and their report

An error names what is wrong, where the offending text begins, and the text itself. Errors never end
a pass: scanning goes on behind the offending text, and a report keeps them in source order. -/
set_option autoImplicit false

namespace Munch

inductive Fault where
  | illegalCharacter (char : Char)
  | unterminatedString
  | malformedNumber
deriving DecidableEq, Repr

def Fault.message : Fault → Text
  | .illegalCharacter char => "illegal character: ".toList ++ Text.quotedChar char
  | .unterminatedString => "unterminated string literal".toList
  | .malformedNumber => "malformed number literal".toList

structure LexError where
  fault : Fault
  position : Position
  offendingText : Text
deriving DecidableEq, Repr

namespace LexError

def message (error : LexError) : Text :=
  error.fault.message ++ " at line ".toList ++ Text.ofNat error.position.line ++
    ", column ".toList ++ Text.ofNat error.position.column

def line (error : LexError) : Text :=
  error.position.display ++ ": ".toList ++ error.fault.message

end LexError

/-- The errors of a pass, in the order in which they were recorded. -/
structure Report where
  recorded : Array LexError := #[]
deriving DecidableEq, Repr

namespace Report

def empty : Report := {}

def errors (report : Report) : List LexError := report.recorded.toList

def size (report : Report) : Nat := report.recorded.size

def isEmpty (report : Report) : Bool := report.recorded.isEmpty

def record (report : Report) (error : LexError) : Report :=
  ⟨report.recorded.push error⟩

def extend (report : Report) (errors : List LexError) : Report :=
  errors.foldl record report

def reverse (report : Report) : Report :=
  empty.extend report.errors.reverse

def lines (report : Report) : List Text := report.errors.map LexError.line

def display (report : Report) : Text := List.intercalate ['\n'] report.lines

@[simp] theorem errors_empty : empty.errors = [] := rfl

@[simp] theorem errors_record (report : Report) (error : LexError) :
    (report.record error).errors = report.errors ++ [error] := by
  simp [errors, record]

@[simp] theorem errors_extend (report : Report) (added : List LexError) :
    (report.extend added).errors = report.errors ++ added := by
  induction added generalizing report with
  | nil => simp [extend]
  | cons error rest ih =>
    have step := ih (report.record error)
    simp only [extend, List.foldl_cons] at step ⊢
    simp [step]

@[simp] theorem length_errors (report : Report) : report.errors.length = report.size := rfl

theorem isEmpty_iff (report : Report) : report.isEmpty = true ↔ report.errors = [] := by
  simp [isEmpty, errors]

end Report

end Munch
