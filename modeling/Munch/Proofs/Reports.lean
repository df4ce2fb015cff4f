import Munch.Proofs.PlaceOrder
import Munch.Proofs.Tasks

/-! # Reports tell their errors

A report is filled by recording errors, one or several at a time, and is displayed with a line feed
before every line but the first. No line holds a line feed of its own, whatever character is
reported, so the lines can be cut apart again; and a line can be read in one way only, since neither
number holds a colon and each fault has its wording. What a report does not tell is where an error
stands in bytes, and its text. -/
set_option autoImplicit false

namespace Munch

/-! ## One line -/

def Fault.initial : Fault → Char
  | .illegalCharacter _ => 'i'
  | .unterminatedString => 'u'
  | .malformedNumber => 'm'

theorem Fault.message_illegalCharacter (char : Char) : (illegalCharacter char).message =
    "illegal character: ".toList ++ Text.quotedChar char := rfl

theorem Fault.head_message (fault : Fault) : fault.message.head? = some fault.initial := by
  cases fault with
  | illegalCharacter char =>
    have wording : "illegal character: ".toList.head? = some 'i' := by decide +kernel
    rw [message_illegalCharacter, List.head?_append, wording, Option.some_or]
    rfl
  | unterminatedString => decide +kernel
  | malformedNumber => decide +kernel

theorem Fault.message_inj {first second : Fault} :
    first.message = second.message ↔ first = second := by
  constructor
  · intro same
    have initials := congrArg List.head? same
    rw [head_message, head_message, Option.some.injEq] at initials
    -- Only an illegal character has more to tell than its sort, and that is found by the initial.
    have sorts : first = second ∨
        ∃ char other, first = .illegalCharacter char ∧ second = .illegalCharacter other := by
      cases first <;> cases second <;> simp [initial] at initials ⊢
    rcases sorts with equal | ⟨char, other, rfl, rfl⟩
    · exact equal
    · rw [message_illegalCharacter, message_illegalCharacter] at same
      rw [Text.quotedChar_inj.mp (List.append_cancel_left same)]
  · exact congrArg message

namespace LexError

def told (error : LexError) : Nat × Nat × Fault :=
  (error.position.line, error.position.column, error.fault)

theorem line_eq (error : LexError) : error.line = Text.ofNat error.position.line ++
    ':' :: (Text.ofNat error.position.column ++ ':' :: ' ' :: error.fault.message) := by
  simp [line, Position.display]

theorem line_eq_iff {first second : LexError} :
    first.line = second.line ↔ first.told = second.told := by
  rw [told, told, Prod.mk.injEq, Prod.mk.injEq]
  constructor
  · intro same
    have colon := Text.colon_not_mem_ofNat
    rw [line_eq, line_eq] at same
    obtain ⟨lines, rest⟩ := Text.append_cons_inj (colon _) (colon _) same
    obtain ⟨columns, wording⟩ := Text.append_cons_inj (colon _) (colon _) rest
    have message := (List.cons.inj wording).2
    exact ⟨Text.ofNat_inj.mp lines, Text.ofNat_inj.mp columns, Fault.message_inj.mp message⟩
  · rintro ⟨line, column, fault⟩
    rw [line_eq, line_eq, line, column, fault]

end LexError

namespace Report

/-! ## Filling a report -/

inductive Operation where
  | record (error : LexError)
  | extend (errors : List LexError)
deriving DecidableEq, Repr

def Operation.added : Operation → List LexError
  | .record error => [error]
  | .extend errors => errors

def operate (report : Report) : Operation → Report
  | .record error => report.record error
  | .extend errors => report.extend errors

def operateAll (report : Report) (operations : List Operation) : Report :=
  operations.foldl operate report

theorem errors_operate (report : Report) (operation : Operation) :
    (report.operate operation).errors = report.errors ++ operation.added := by
  cases operation with
  | record error => exact errors_record report error
  | extend errors => exact errors_extend report errors

theorem errors_operateAll (report : Report) (operations : List Operation) :
    (report.operateAll operations).errors =
      report.errors ++ operations.flatMap Operation.added := by
  induction operations generalizing report with
  | nil => simp [operateAll]
  | cons operation rest ih =>
    have later := ih (report.operate operation)
    rw [errors_operate] at later
    rw [List.flatMap_cons, ← List.append_assoc]
    exact later

/-! ## Displaying a report -/

/-- A line feed stands before every line but the first. -/
theorem intercalate_cons (first : Text) (rest : List Text) :
    List.intercalate ['\n'] (first :: rest) = first ++ rest.flatMap fun line => '\n' :: line := by
  induction rest generalizing first with
  | nil => simp
  | cons second rest ih =>
    rw [List.intercalate_cons_cons, ih, List.flatMap_cons, List.append_assoc]
    rfl

theorem display_of_errors {report : Report} {error : LexError} {rest : List LexError}
    (some : report.errors = error :: rest) :
    report.display = error.line ++ rest.flatMap fun other => '\n' :: other.line := by
  rw [display, lines, some, List.map_cons, intercalate_cons, List.flatMap_map]

theorem display_eq_nil_iff (report : Report) : report.display = [] ↔ report.errors = [] := by
  constructor
  · intro none
    cases errors : report.errors with
    | nil => rfl
    | cons error rest =>
      rw [display_of_errors errors] at none
      exact absurd (List.append_eq_nil_iff.mp none).1 error.line_ne_nil
  · intro none
    rw [display, lines, none]
    rfl

/-- A report is displayed by going through its errors with their places in it, from 0. -/
theorem display_eq_zipIdx (report : Report) :
    report.display = report.errors.zipIdx.flatMap fun (error, index) =>
      if 0 < index then '\n' :: error.line else error.line := by
  have later : ∀ (errors : List LexError) (index : Nat),
      ((errors.zipIdx (index + 1)).flatMap fun (error, index) =>
        if 0 < index then '\n' :: error.line else error.line) =
      errors.flatMap fun error => '\n' :: error.line := by
    intro errors
    induction errors with
    | nil =>
      intro index
      rfl
    | cons error rest ih =>
      intro index
      rw [List.zipIdx_cons, List.flatMap_cons, List.flatMap_cons, ih]
      simp only [Nat.succ_pos, if_true]
  cases errors : report.errors with
  | nil => exact (display_eq_nil_iff report).mpr errors
  | cons error rest =>
    rw [display_of_errors errors, List.zipIdx_cons, List.flatMap_cons, later]
    rfl

theorem display_extend (report other : Report) :
    (report.extend other.errors).display = report.display ++
      (if report.errors ≠ [] ∧ other.errors ≠ [] then ['\n'] else []) ++ other.display := by
  have both := errors_extend report other.errors
  cases errors : report.errors with
  | nil =>
    rw [errors, List.nil_append] at both
    have front : report.display = [] := (display_eq_nil_iff report).mpr errors
    rw [display, lines, both, front]
    simp [display, lines]
  | cons error rest =>
    rw [errors, List.cons_append] at both
    rw [display_of_errors both, display_of_errors errors]
    cases others : other.errors with
    | nil =>
      have none : other.display = [] := (display_eq_nil_iff other).mpr others
      simp [none]
    | cons next more =>
      rw [display_of_errors others]
      simp

theorem split_display {report : Report} (some : report.errors ≠ []) :
    report.display.split '\n' = report.errors.map LexError.line := by
  have shown : report.display ≠ [] := fun none => some ((display_eq_nil_iff report).mp none)
  rw [← lines_display, Text.lines, if_neg shown]

theorem display_eq_display_iff {report other : Report} : report.display = other.display ↔
    report.errors.map LexError.told = other.errors.map LexError.told := by
  constructor
  · intro same
    have lines := congrArg Text.lines same
    rw [lines_display, lines_display] at lines
    exact (map_eq_map_iff fun _ _ _ _ => LexError.line_eq_iff).mp lines
  · intro same
    have lines := (map_eq_map_iff fun _ _ _ _ => LexError.line_eq_iff).mpr same
    rw [display, display, Report.lines, Report.lines, lines]

/-- Whether a report tells the errors that were added to it: it holds them in their order, displays
a line for each, and is displayed as another report is exactly if that tells the same of its errors. -/
structure Tells (report : Report) (added : List LexError) : Prop where
  errors : report.errors = added
  empty : report.display = [] ↔ added = []
  lines : added ≠ [] → report.display.split '\n' = added.map LexError.line
  line : ∀ error ∈ added, error.line ≠ [] ∧ '\n' ∉ error.line ∧
    error.line = Text.ofNat error.position.line ++
      ':' :: (Text.ofNat error.position.column ++ ':' :: ' ' :: error.fault.message)
  feeds : report.display = added.zipIdx.flatMap fun (error, index) =>
    if 0 < index then '\n' :: error.line else error.line
  extended : ∀ other : Report, (report.extend other.errors).display = report.display ++
    (if added ≠ [] ∧ other.errors ≠ [] then ['\n'] else []) ++ other.display
  same : ∀ other : Report, report.display = other.display ↔
    added.map LexError.told = other.errors.map LexError.told

/-- However a report is filled, it tells the errors that were added to it. -/
theorem tells_operateAll (operations : List Operation) :
    (empty.operateAll operations).Tells (operations.flatMap Operation.added) := by
  have errors : (empty.operateAll operations).errors = operations.flatMap Operation.added := by
    rw [errors_operateAll, errors_empty, List.nil_append]
  rw [← errors]
  constructor
  case errors => rfl
  case empty => exact display_eq_nil_iff _
  case lines =>
    intro some
    exact split_display some
  case line =>
    intro error _
    exact ⟨error.line_ne_nil, error.newline_not_mem_line, error.line_eq⟩
  case feeds => exact display_eq_zipIdx _
  case extended =>
    intro other
    exact display_extend _ other
  case same =>
    intro other
    exact display_eq_display_iff

/-- A line feed that is reported takes no line of its own. -/
example : (empty.operateAll [.record ⟨.illegalCharacter '\n', ⟨4, 2, 1⟩, ['\n']⟩,
      .extend [⟨.unterminatedString, ⟨9, 3, 5⟩, ['"']⟩]]).display =
    "2:1: illegal character: '\\n'\n3:5: unterminated string literal".toList := by
  decide +kernel

end Report

end Munch
