import Munch.Config
import Munch.LexError
import Munch.Number
import Munch.StringLiteral
import Munch.Trivia

/-! # The lexeme at the front of a text

The class of the first character decides how a text is read: as a word, a number, a string or an
operator. Each reading takes as much as it can. A character that begins nothing is illegal by
itself. The lexeme is always a prefix of the text, and it is empty only where the text is. -/
set_option autoImplicit false

namespace Munch

inductive Verdict where
  | token (kind : Kind)
  | error (fault : Fault)
deriving DecidableEq, Repr

structure Lexeme where
  verdict : Verdict
  text : Text
deriving DecidableEq, Repr

namespace Lexeme

def ofWord (config : Config) (text : Text) : Lexeme :=
  let word := text.takeWhile isIdentifierContinue
  ⟨.token (config.kindOf word), word⟩

def ofNumber (config : Config) (text : Text) : Lexeme :=
  let reading := Number.read config.strictNumbers text
  match reading with
  | .whole digits => ⟨.token (.integer digits), reading.text⟩
  | .fractional digits => ⟨.token (.floating digits), reading.text⟩
  | .malformed _ => ⟨.error .malformedNumber, reading.text⟩

def ofString (text : Text) : Lexeme :=
  let reading := StringLiteral.read text
  match reading with
  | .closed body => ⟨.token (.string (StringLiteral.decode body)), reading.text⟩
  | .unterminated _ => ⟨.error .unterminatedString, reading.text⟩

def operatorPair? (char : Char) (rest : Text) : Option (Operator × Char) :=
  match rest with
  | [] => none
  | next :: _ => (Operator.ofPair? char next).map fun symbol => (symbol, next)

/-- The operator that a character and the text behind it begin with: one of two characters if there
is one. -/
def ofOperator (char : Char) (rest : Text) : Lexeme :=
  match operatorPair? char rest with
  | some (symbol, next) => ⟨.token (.operator symbol), [char, next]⟩
  | none =>
    match Operator.ofChar? char with
    | some symbol => ⟨.token (.operator symbol), [char]⟩
    | none => ⟨.error (.illegalCharacter char), [char]⟩

def atFront (config : Config) (text : Text) : Lexeme :=
  match text with
  | [] => ⟨.token .endOfInput, []⟩
  | char :: rest =>
    match classify char with
    | .letter => ofWord config text
    | .digit => ofNumber config text
    | .quote => ofString rest
    | .operator => ofOperator char rest
    | .whitespace | .other => ⟨.error (.illegalCharacter char), [char]⟩

theorem ofWord_isPrefix (config : Config) (text : Text) : (ofWord config text).text <+: text :=
  List.takeWhile_prefix isIdentifierContinue

theorem text_ofNumber (config : Config) (text : Text) :
    (ofNumber config text).text = (Number.read config.strictNumbers text).text := by
  unfold ofNumber
  cases Number.read config.strictNumbers text <;> rfl

theorem text_ofString (text : Text) : (ofString text).text = (StringLiteral.read text).text := by
  unfold ofString
  cases StringLiteral.read text <;> rfl

theorem text_ofOperator_isPrefix (char : Char) (rest : Text) :
    (ofOperator char rest).text <+: char :: rest := by
  unfold ofOperator
  split
  · rename_i symbol next pair
    cases rest with
    | nil => simp [operatorPair?] at pair
    | cons second rest =>
      simp only [operatorPair?, Option.map_eq_some_iff, Prod.mk.injEq] at pair
      obtain ⟨_, _, _, rfl⟩ := pair
      exact ⟨rest, rfl⟩
  · split <;> exact ⟨rest, rfl⟩

theorem text_ofOperator_ne_nil (char : Char) (rest : Text) :
    (ofOperator char rest).text ≠ [] := by
  unfold ofOperator
  split
  · simp
  · split <;> simp

@[simp] theorem atFront_nil (config : Config) : atFront config [] = ⟨.token .endOfInput, []⟩ := rfl

theorem text_atFront_isPrefix (config : Config) (text : Text) :
    (atFront config text).text <+: text := by
  cases text with
  | nil => exact List.nil_prefix
  | cons char rest =>
    simp only [atFront]
    cases shape : classify char with
    | letter => exact ofWord_isPrefix config (char :: rest)
    | digit =>
      simp only [text_ofNumber]
      exact Number.text_read_isPrefix config.strictNumbers (char :: rest)
    | quote =>
      have mark : char = '"' := by simpa [isQuote] using isQuote_of_classify shape
      subst mark
      simp only [text_ofString]
      exact StringLiteral.text_read_isPrefix rest
    | operator => exact text_ofOperator_isPrefix char rest
    | whitespace => exact ⟨rest, rfl⟩
    | other => exact ⟨rest, rfl⟩

theorem text_atFront_ne_nil (config : Config) (char : Char) (rest : Text) :
    (atFront config (char :: rest)).text ≠ [] := by
  simp only [atFront]
  cases shape : classify char with
  | letter =>
    have continues :=
      isIdentifierContinue_of_isIdentifierStart (isIdentifierStart_of_classify shape)
    simp [ofWord, continues]
  | digit =>
    simp only [text_ofNumber]
    exact Number.text_read_ne_nil config.strictNumbers (isDigit_of_classify shape) rest
  | quote =>
    simp only [text_ofString]
    exact StringLiteral.text_read_ne_nil rest
  | operator => exact text_ofOperator_ne_nil char rest
  | whitespace => simp
  | other => simp

end Lexeme

end Munch
