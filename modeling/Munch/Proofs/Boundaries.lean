import Munch.Proofs.Grammar

/-! # Where a lexeme ends

What is read at the front of a text is a lexeme of the language, an error of one of three shapes, or
nothing at the end. Each of them has a condition on what stands behind it, `Lexeme.StopsAt`, and the
two together decide the reading: a text splits into a formed lexeme and a text before which it
stops, and such a lexeme is what is read, whatever else that text holds. -/
set_option autoImplicit false

namespace Munch

theorem Config.kindOf_cases (config : Config) (word : Text) :
    config.kindOf word = .identifier ∨ (∃ keyword, config.kindOf word = .keyword keyword) ∨
      ∃ value, config.kindOf word = .boolean value := by
  unfold Config.kindOf
  cases config.lookup word with
  | none => exact Or.inl rfl
  | some reserved =>
    cases reserved with
    | keyword keyword => exact Or.inr (Or.inl ⟨keyword, rfl⟩)
    | boolean value => exact Or.inr (Or.inr ⟨value, rfl⟩)

/-- Whether no lexeme and no error of more than one character begins with a character. -/
structure BeginsNothing (char : Char) : Prop where
  noWord : isIdentifierStart char = false
  noNumber : isDigit char = false
  noString : char ≠ '"'
  noOperator : Operator.ofChar? char = none

namespace Lexeme

/-- The readings there are: lexemes of the language, the three shapes of errors, and the end. -/
inductive Formed (config : Config) : Lexeme → Prop where
  | closing : Formed config ⟨.token .endOfInput, []⟩
  | token {kind : Kind} {text : Text} (lexical : Lexical config kind text) :
      Formed config ⟨.token kind, text⟩
  | malformed {run : Text}
      (formed : (Number.Reading.malformed run).Formed config.strictNumbers) :
      Formed config ⟨.error .malformedNumber, run⟩
  | unterminated {inside : Text} (isOpen : StringLiteral.OpenBody inside) :
      Formed config ⟨.error .unterminatedString, '"' :: inside⟩
  | illegal {char : Char} (nothing : BeginsNothing char) :
      Formed config ⟨.error (.illegalCharacter char), [char]⟩

theorem Formed.lexical {config : Config} {kind : Kind} {text : Text}
    (formed : Formed config ⟨.token kind, text⟩) (inner : kind ≠ .endOfInput) :
    Lexical config kind text := by
  cases formed with
  | closing => exact absurd rfl inner
  | token lexical => exact lexical

def StopsAt (config : Config) (behind : Text) (lexeme : Lexeme) : Prop :=
  match lexeme.verdict with
  | .token .endOfInput => behind = []
  | .token .identifier | .token (.keyword _) | .token (.boolean _) =>
    behind.begins isIdentifierContinue = false
  | .token (.integer digits) => (Number.Reading.whole digits).EndsBefore config.strictNumbers behind
  | .token (.floating digits) =>
    (Number.Reading.fractional digits).EndsBefore config.strictNumbers behind
  | .token (.string _) => True
  | .token (.operator _) => ∀ char, lexeme.text = [char] → operatorPair? char behind = none
  | .error .malformedNumber => Number.gluedPart behind = []
  | .error .unterminatedString => behind.begins (· != '\n') = false
  | .error (.illegalCharacter char) => operatorPair? char behind = none

theorem stopsAt_word {config : Config} {word behind : Text} :
    StopsAt config behind ⟨.token (config.kindOf word), word⟩ ↔
      behind.begins isIdentifierContinue = false := by
  rcases config.kindOf_cases word with same | ⟨_, same⟩ | ⟨_, same⟩ <;> rw [same] <;> rfl

theorem operatorPair?_eq_some_iff {char next : Char} {rest : Text} {symbol : Operator} :
    operatorPair? char rest = some (symbol, next) ↔
      symbol.spelling = [char, next] ∧ ∃ behind, rest = next :: behind := by
  cases rest with
  | nil => simp [operatorPair?]
  | cons second rest =>
    simp only [operatorPair?, Option.map_eq_some_iff, Prod.mk.injEq]
    constructor
    · rintro ⟨found, pair, rfl, rfl⟩
      exact ⟨Operator.ofPair?_eq_some_iff.mp pair, rest, rfl⟩
    · rintro ⟨spelled, behind, same⟩
      obtain ⟨rfl, rfl⟩ := List.cons.inj same
      exact ⟨symbol, Operator.ofPair?_eq_some_iff.mpr spelled, rfl, rfl⟩

theorem operatorPair?_congr {first second : Text} (head : first.head? = second.head?)
    (char : Char) : operatorPair? char first = operatorPair? char second := by
  cases first with
  | nil =>
    cases second with
    | nil => rfl
    | cons next rest => contradiction
  | cons next rest =>
    cases second with
    | nil => contradiction
    | cons other more =>
      simp only [List.head?_cons, Option.some.injEq] at head
      rw [head]
      rfl

/-- Two characters of what stands behind a lexeme decide whether it stops. -/
theorem stopsAt_congr (config : Config) {first second : Text} (head : first.head? = second.head?)
    (fraction : Number.startsFraction first = Number.startsFraction second) (lexeme : Lexeme) :
    lexeme.StopsAt config first ↔ lexeme.StopsAt config second := by
  have begins : ∀ test, first.begins test = second.begins test := by
    intro test
    rw [Text.begins, Text.begins, head]
  have empty : first = [] ↔ second = [] := by
    rw [← List.head?_eq_none_iff, head, List.head?_eq_none_iff]
  have number := Number.Reading.endsBefore_congr config.strictNumbers head fraction
  have glued := Number.Reading.stopsAt_congr head fraction (.malformed [])
  simp only [Number.Reading.StopsAt] at glued
  unfold StopsAt
  split <;> simp only [begins, empty, number, glued, operatorPair?_congr head]

theorem stopsAt_append (config : Config) (lexeme : Lexeme) {text : Text} (some : text ≠ [])
    (more : text ≠ ['.']) (behind : Text) :
    lexeme.StopsAt config (text ++ behind) ↔ lexeme.StopsAt config text :=
  stopsAt_congr config (Text.head?_append some behind)
    (Number.startsFraction_append some more behind) lexeme

end Lexeme

theorem Operator.isOperatorChar_of_spelling {symbol : Operator} {char : Char} {rest : Text}
    (spelled : symbol.spelling = char :: rest) : isOperatorChar char = true := by
  cases symbol <;> (obtain ⟨rfl, -⟩ := List.cons.inj spelled; rfl)

theorem Operator.isOperatorChar_of_pair {symbol : Operator} {first second : Char}
    (spelled : symbol.spelling = [first, second]) : isOperatorChar second = true := by
  cases symbol <;> simp_all [spelling] <;> (obtain ⟨-, rfl⟩ := spelled; rfl)

theorem Operator.spelling_cases (symbol : Operator) :
    (∃ char, symbol.spelling = [char]) ∨ ∃ first second, symbol.spelling = [first, second] := by
  cases symbol <;> simp [spelling]

namespace Lexeme

theorem operatorPair?_eq_none {rest : Text} (apart : rest.begins isOperatorChar = false)
    (char : Char) : operatorPair? char rest = none := by
  cases found : operatorPair? char rest with
  | none => rfl
  | some pair =>
    obtain ⟨spelled, behind, rfl⟩ := operatorPair?_eq_some_iff.mp found
    rw [Text.begins_cons, Operator.isOperatorChar_of_pair spelled] at apart
    contradiction

theorem operatorPair?_dot (rest : Text) : operatorPair? '.' rest = none := by
  cases found : operatorPair? '.' rest with
  | none => rfl
  | some pair =>
    have spelled := (operatorPair?_eq_some_iff.mp found).1
    cases symbol : pair.1 <;> simp [symbol, Operator.spelling] at spelled

/-! ## A formed lexeme that stops is read -/

theorem atFront_word (config : Config) {word : Text} (isWord : IsWord word) {behind : Text}
    (stops : behind.begins isIdentifierContinue = false) :
    atFront config (word ++ behind) = ⟨.token (config.kindOf word), word⟩ := by
  cases isWord with
  | intro starts continues =>
    rename_i first rest
    have inside : ∀ char ∈ first :: rest, isIdentifierContinue char = true := by
      intro char member
      rcases List.mem_cons.mp member with rfl | member
      · exact isIdentifierContinue_of_isIdentifierStart starts
      · exact continues char member
    have taken := Text.takeWhile_append_of_begins inside stops
    rw [List.cons_append] at taken
    rw [List.cons_append, atFront]
    simp only [classify_of_isIdentifierStart starts, ofWord, taken]

def ofReading : Number.Reading → Lexeme
  | .whole digits => ⟨.token (.integer digits), digits⟩
  | .fractional digits => ⟨.token (.floating digits), digits⟩
  | .malformed run => ⟨.error .malformedNumber, run⟩

theorem text_ofReading (reading : Number.Reading) : (ofReading reading).text = reading.text := by
  cases reading <;> rfl

theorem atFront_number (config : Config) {text : Text} (digit : text.begins isDigit = true) :
    atFront config text = ofReading (Number.read config.strictNumbers text) := by
  cases text with
  | nil => simp at digit
  | cons char rest =>
    rw [atFront]
    simp only [classify_of_isDigit digit, ofNumber]
    cases Number.read config.strictNumbers (char :: rest) <;> rfl

theorem atFront_reading {config : Config} {reading : Number.Reading}
    (formed : reading.Formed config.strictNumbers) {behind : Text}
    (ends : reading.EndsBefore config.strictNumbers behind) :
    atFront config (reading.text ++ behind) = ofReading reading := by
  rw [atFront_number config (formed.begins behind), Number.read_eq formed ends]

theorem atFront_string (config : Config) (rest : Text) :
    atFront config ('"' :: rest) = ofString rest := rfl

theorem atFront_operator (config : Config) {char : Char} (operator : isOperatorChar char = true)
    (rest : Text) : atFront config (char :: rest) = ofOperator char rest := by
  rw [atFront]
  simp only [classify_of_isOperatorChar operator]

theorem atFront_lexical {config : Config} {kind : Kind} {text : Text}
    (lexical : Lexical config kind text) {behind : Text}
    (stops : StopsAt config behind ⟨.token kind, text⟩) :
    atFront config (text ++ behind) = ⟨.token kind, text⟩ := by
  cases lexical with
  | word isWord => exact atFront_word config isWord (stopsAt_word.mp stops)
  | integer isDigits => exact atFront_reading (.plain (.whole isDigits)) stops
  | floating isDigits isFraction =>
    exact atFront_reading (.plain (.fractional isDigits isFraction)) stops
  | string elements =>
    have reads := StringLiteral.read_closed elements behind
    simp only [List.cons_append, List.append_assoc, List.nil_append]
    rw [atFront_string, ofString, reads]
    simp [StringLiteral.decode_written, StringLiteral.Reading.text]
  | operator symbol =>
    rcases symbol.spelling_cases with ⟨char, spelled⟩ | ⟨first, second, spelled⟩
    · have operator := Operator.isOperatorChar_of_spelling spelled
      have alone := Operator.ofChar?_eq_some_iff.mpr spelled
      have noPair : operatorPair? char behind = none := stops char spelled
      rw [spelled, List.singleton_append, atFront_operator config operator, ofOperator]
      simp [noPair, alone]
    · have operator := Operator.isOperatorChar_of_spelling spelled
      have pair : operatorPair? first (second :: behind) = some (symbol, second) :=
        operatorPair?_eq_some_iff.mpr ⟨spelled, behind, rfl⟩
      rw [spelled, List.cons_append, List.singleton_append, atFront_operator config operator,
        ofOperator]
      simp [pair]

/-- A character that begins nothing is illegal by itself, unless it is half of an operator. -/
theorem atFront_illegal (config : Config) {char : Char} (nothing : BeginsNothing char)
    {behind : Text} (stops : operatorPair? char behind = none) :
    atFront config (char :: behind) = ⟨.error (.illegalCharacter char), [char]⟩ := by
  rw [atFront]
  cases shape : classify char with
  | letter =>
    have starts := isIdentifierStart_of_classify shape
    simp [nothing.noWord] at starts
  | digit =>
    have digit := isDigit_of_classify shape
    simp [nothing.noNumber] at digit
  | quote => exact absurd (eq_quote_of_classify shape) nothing.noString
  | operator => simp [ofOperator, stops, nothing.noOperator]
  | whitespace => rfl
  | other => rfl

/-- The front of a text is the formed lexeme that stops where the rest begins. -/
theorem atFront_eq {config : Config} {lexeme : Lexeme} (formed : lexeme.Formed config)
    {behind : Text} (stops : lexeme.StopsAt config behind) :
    atFront config (lexeme.text ++ behind) = lexeme := by
  cases formed with
  | closing =>
    have done : behind = [] := stops
    subst done
    rfl
  | token lexical => exact atFront_lexical lexical stops
  | malformed formed => exact atFront_reading formed ⟨stops, fun _ => stops⟩
  | unterminated isOpen =>
    have reads := StringLiteral.read_unterminated isOpen stops
    rw [List.cons_append, atFront_string, ofString, reads]
    rfl
  | illegal nothing => exact atFront_illegal config nothing stops

/-! ## Every text has a formed lexeme at its front -/

theorem ofChar?_eq_none {char : Char} (noOperator : classify char ≠ .operator) :
    Operator.ofChar? char = none := by
  cases found : Operator.ofChar? char with
  | none => rfl
  | some symbol =>
    have spelled := Operator.ofChar?_eq_some_iff.mp found
    have operator := Operator.isOperatorChar_of_spelling spelled
    exact absurd (classify_of_isOperatorChar operator) noOperator

theorem beginsNothing_of_classify {char : Char} (noLetter : classify char ≠ .letter)
    (noDigit : classify char ≠ .digit) (noQuote : classify char ≠ .quote)
    (noOperator : Operator.ofChar? char = none) : BeginsNothing char where
  noWord := by
    rw [← Bool.not_eq_true]
    intro starts
    exact noLetter (classify_of_isIdentifierStart starts)
  noNumber := by
    rw [← Bool.not_eq_true]
    intro digit
    exact noDigit (classify_of_isDigit digit)
  noString := by
    rintro rfl
    exact noQuote classify_quote
  noOperator := noOperator

theorem operatorPair?_blank {char : Char} (shape : classify char ≠ .operator) (rest : Text) :
    operatorPair? char rest = none := by
  cases found : operatorPair? char rest with
  | none => rfl
  | some pair =>
    have spelled := (operatorPair?_eq_some_iff.mp found).1
    have operator := Operator.isOperatorChar_of_spelling spelled
    exact absurd (classify_of_isOperatorChar operator) shape

/-- A blank ends everything but the rest of a broken string, which only the line feed ends. -/
theorem stopsAt_blank (config : Config) {blank : Char} (isBlank : isWhitespace blank = true)
    (rest : Text) {lexeme : Lexeme} (inner : lexeme.verdict ≠ .token .endOfInput)
    (line : lexeme.verdict = .error .unterminatedString → blank = '\n') :
    lexeme.StopsAt config (blank :: rest) := by
  have outside := not_isIdentifierContinue_of_isWhitespace isBlank
  have noDigit := not_isDigit outside
  have noDot : blank ≠ '.' := by
    rintro rfl
    contradiction
  have noFraction : Number.startsFraction (blank :: rest) = false := by
    simp [Number.startsFraction, noDot]
  have loose : Number.gluedPart (blank :: rest) = [] :=
    Number.gluedPart_eq_nil_iff.mpr ⟨outside, noFraction⟩
  have noPair : ∀ char, operatorPair? char (blank :: rest) = none := by
    intro char
    apply operatorPair?_eq_none
    simp only [isWhitespace, Bool.or_eq_true, beq_iff_eq] at isBlank
    rcases isBlank with ((rfl | rfl) | rfl) | rfl <;> rfl
  unfold StopsAt
  split
  · rename_i shape
    exact absurd shape inner
  · exact outside
  · exact outside
  · exact outside
  · exact ⟨⟨noDigit, noFraction⟩, fun _ => loose⟩
  · exact ⟨noDigit, fun _ => loose⟩
  · trivial
  · intro char _
    exact noPair char
  · exact loose
  · rename_i shape
    rw [line shape]
    rfl
  · exact noPair _

/-- The end of the source ends everything. -/
theorem stopsAt_nil (config : Config) (lexeme : Lexeme) : lexeme.StopsAt config [] := by
  unfold StopsAt
  split
  · rfl
  · rfl
  · rfl
  · rfl
  · exact ⟨⟨rfl, rfl⟩, fun _ => rfl⟩
  · exact ⟨rfl, fun _ => rfl⟩
  · trivial
  · intro char _
    rfl
  · rfl
  · rfl
  · rfl

/-- What a text is composed of, when nothing but its front is looked at. -/
structure Splits (config : Config) (text : Text) (lexeme : Lexeme) (behind : Text) : Prop where
  composed : text = lexeme.text ++ behind
  formed : lexeme.Formed config
  stops : lexeme.StopsAt config behind

theorem exists_splits_operator (config : Config) {char : Char}
    (operator : classify char = .operator) (rest : Text) :
    ∃ lexeme behind, Splits config (char :: rest) lexeme behind := by
  cases pair : operatorPair? char rest with
  | some found =>
    obtain ⟨symbol, next⟩ := found
    obtain ⟨spelled, behind, rfl⟩ := operatorPair?_eq_some_iff.mp pair
    refine ⟨⟨.token (.operator symbol), symbol.spelling⟩, behind, ?_, .token (.operator symbol), ?_⟩
    · simp [spelled]
    · intro alone single
      rw [spelled] at single
      simp at single
  | none =>
    cases found : Operator.ofChar? char with
    | some symbol =>
      have spelled := Operator.ofChar?_eq_some_iff.mp found
      refine ⟨⟨.token (.operator symbol), symbol.spelling⟩, rest, ?_, .token (.operator symbol), ?_⟩
      · simp [spelled]
      · intro alone single
        rw [spelled] at single
        obtain ⟨rfl, -⟩ := List.cons.inj single
        exact pair
    | none =>
      have nothing : BeginsNothing char := by
        apply beginsNothing_of_classify _ _ _ found <;> simp [operator]
      exact ⟨⟨.error (.illegalCharacter char), [char]⟩, rest, rfl, .illegal nothing, pair⟩

/-- Every text splits into a formed lexeme and a text before which it stops. -/
theorem exists_splits (config : Config) (text : Text) :
    ∃ lexeme behind, Splits config text lexeme behind := by
  cases text with
  | nil => exact ⟨⟨.token .endOfInput, []⟩, [], rfl, .closing, rfl⟩
  | cons char rest =>
    cases shape : classify char with
    | letter =>
      have starts := isIdentifierStart_of_classify shape
      obtain ⟨body, behind, rfl, continues, stops⟩ := Text.exists_span isIdentifierContinue rest
      exact ⟨⟨.token (config.kindOf (char :: body)), char :: body⟩, behind, rfl,
        .token (.word (.intro starts continues)), stopsAt_word.mpr stops⟩
    | digit =>
      have digit : Text.begins isDigit (char :: rest) = true := isDigit_of_classify shape
      obtain ⟨reading, behind, same, formed, ends⟩ :=
        Number.exists_read config.strictNumbers digit
      rw [same]
      cases reading with
      | whole digits =>
        cases formed with
        | plain isPlain =>
          cases isPlain with
          | whole isDigits =>
            exact ⟨⟨.token (.integer digits), digits⟩, behind, rfl, .token (.integer isDigits), ends⟩
      | fractional digits =>
        cases formed with
        | plain isPlain =>
          cases isPlain with
          | fractional isDigits isFraction =>
            exact ⟨_, behind, rfl, .token (.floating isDigits isFraction), ends⟩
      | malformed run =>
        exact ⟨⟨.error .malformedNumber, run⟩, behind, rfl, .malformed formed, ends.1⟩
    | quote =>
      have mark := eq_quote_of_classify shape
      subst mark
      cases StringLiteral.afterMark rest with
      | closed elements behind =>
        refine ⟨⟨.token (.string (StringLiteral.contents elements)), _⟩, behind, ?_,
          .token (.string elements), trivial⟩
        simp
      | @unclosed inside behind isOpen stops =>
        exact ⟨⟨.error .unterminatedString, '"' :: inside⟩, behind, rfl, .unterminated isOpen, stops⟩
    | operator => exact exists_splits_operator config shape rest
    | whitespace | other =>
      have noOperator : classify char ≠ .operator := by simp [shape]
      have nothing : BeginsNothing char := by
        apply beginsNothing_of_classify _ _ _ (ofChar?_eq_none noOperator) <;> simp [shape]
      exact ⟨⟨.error (.illegalCharacter char), [char]⟩, rest, rfl, .illegal nothing,
        operatorPair?_blank noOperator rest⟩

theorem Splits.atFront {config : Config} {text : Text} {lexeme : Lexeme} {behind : Text}
    (splits : Splits config text lexeme behind) : atFront config text = lexeme := by
  rw [splits.composed, atFront_eq splits.formed splits.stops]

theorem exists_atFront (config : Config) (text : Text) :
    ∃ behind, Splits config text (atFront config text) behind := by
  obtain ⟨lexeme, behind, splits⟩ := exists_splits config text
  rw [splits.atFront]
  exact ⟨behind, splits⟩

end Lexeme

end Munch
