import Munch.CharClass

/-! # The classes of characters exclude each other

Digits are characters of a name but begin none, and no blank, mark, escape or operator is a
character of a name. Below U+0080 the tables of the scripts are not consulted, so these facts are
about ranges of code points. -/
set_option autoImplicit false

namespace Munch

theorem toNat_of_isDigit {char : Char} (digit : isDigit char = true) :
    48 ≤ char.toNat ∧ char.toNat ≤ 57 := by
  simpa [isDigit, Char.isDigit, UInt32.le_iff_toNat_le] using digit

theorem isIdentifierContinue_of_isDigit {char : Char} (digit : isDigit char = true) :
    isIdentifierContinue char = true := by
  have range := toNat_of_isDigit digit
  have ascii : char.toNat < 0x80 := by omega
  have numeric : isNumeric char = true := by
    rw [isNumeric, if_pos ascii]
    exact digit
  simp [isIdentifierContinue, numeric]

theorem toNat_of_isAlpha {char : Char} (letter : char.isAlpha = true) : 65 ≤ char.toNat := by
  have ranges : (decide ('A'.val ≤ char.val ∧ char.val ≤ 'Z'.val) ||
      decide ('a'.val ≤ char.val) && decide (char.val ≤ 'z'.val)) = true := letter
  simp only [Bool.or_eq_true, Bool.and_eq_true, decide_eq_true_eq, UInt32.le_iff_toNat_le] at ranges
  have code : char.toNat = char.val.toNat := rfl
  have upper : 'A'.val.toNat = 65 := rfl
  have lower : 'a'.val.toNat = 97 := rfl
  omega

theorem not_isIdentifierStart_of_isDigit {char : Char} (digit : isDigit char = true) :
    isIdentifierStart char = false := by
  have range := toNat_of_isDigit digit
  have ascii : char.toNat < 0x80 := by omega
  have letterless : isAlphabetic char = false := by
    rw [isAlphabetic, if_pos ascii, Bool.eq_false_iff]
    intro letter
    have above := toNat_of_isAlpha letter
    omega
  have plain : char ≠ '_' := by
    rintro rfl
    simp at range
  simp [isIdentifierStart, letterless, plain]

theorem not_isIdentifierContinue_of_isWhitespace {char : Char}
    (blank : isWhitespace char = true) : isIdentifierContinue char = false := by
  simp only [isWhitespace, Bool.or_eq_true, beq_iff_eq] at blank
  rcases blank with ((rfl | rfl) | rfl) | rfl <;> decide

theorem not_isWhitespace_of_isIdentifierContinue {char : Char}
    (continues : isIdentifierContinue char = true) : isWhitespace char = false := by
  cases blank : isWhitespace char with
  | false => rfl
  | true => simp [not_isIdentifierContinue_of_isWhitespace blank] at continues

/-- What holds of each operator character by itself holds of all. -/
theorem of_isOperatorChar {test : Char → Bool}
    (all : ['+', '-', '*', '/', '%', '<', '>', '!', '=', '&', '|', '(', ')', '{', '}', '[', ']', ',',
      ':', '.', ';'].all test = true) {char : Char} (operator : isOperatorChar char = true) :
    test char = true :=
  List.all_eq_true.mp all char (of_decide_eq_true operator)

theorem not_isIdentifierContinue_of_isOperatorChar {char : Char}
    (operator : isOperatorChar char = true) : isIdentifierContinue char = false := by
  have outside := @of_isOperatorChar (fun c => !isIdentifierContinue c) (by decide) char operator
  simpa using outside

theorem not_isDigit {char : Char} (outside : isIdentifierContinue char = false) :
    isDigit char = false := by
  cases digit : isDigit char with
  | false => rfl
  | true => simp [isIdentifierContinue_of_isDigit digit] at outside

theorem classify_of_isIdentifierStart {char : Char} (starts : isIdentifierStart char = true) :
    classify char = .letter := by
  simp [classify, starts]

theorem classify_of_isDigit {char : Char} (digit : isDigit char = true) :
    classify char = .digit := by
  simp [classify, not_isIdentifierStart_of_isDigit digit, digit]

theorem classify_of_isOperatorChar {char : Char} (operator : isOperatorChar char = true) :
    classify char = .operator := by
  have same := @of_isOperatorChar (fun c => classify c == .operator) (by decide) char operator
  exact eq_of_beq same

theorem classify_eq_whitespace_iff {char : Char} :
    classify char = .whitespace ↔ isWhitespace char = true := by
  constructor
  · intro shape
    unfold classify at shape
    repeat' split at shape
    all_goals first | assumption | contradiction
  · intro blank
    simp only [isWhitespace, Bool.or_eq_true, beq_iff_eq] at blank
    rcases blank with ((rfl | rfl) | rfl) | rfl <;> decide

theorem classify_quote : classify '"' = .quote := by decide

theorem eq_quote_of_classify {char : Char} (quote : classify char = .quote) : char = '"' := by
  simpa [isQuote] using isQuote_of_classify quote

theorem isOperatorChar_of_classify {char : Char} (operator : classify char = .operator) :
    isOperatorChar char = true := by
  unfold classify at operator
  repeat' split at operator
  all_goals first | assumption | contradiction

end Munch
