import Munch.Proofs.Relabelling
import Munch.Proofs.Seams

/-! # Lexemes without a separator

Lexemes that are written one after the other are cut back into themselves unless one of them runs
together with what comes next. There are four ways: a word goes on, a number goes on, two operators
join, and an integer finds a fraction in the two lexemes behind it. Only the last one looks further
than the next lexeme. -/
set_option autoImplicit false

namespace Munch

variable {config : Config}

/-- Whether a text by itself is cut into one token of a kind, which covers all of it. -/
def IsLexeme (config : Config) (kind : Kind) (text : Text) : Prop :=
  kind ≠ .endOfInput ∧ ∃ start stop last,
    tokenize config text = [.token ⟨kind, text, start, stop⟩, .closing last]

def AreLexemes (config : Config) (texts : List Text) : Prop :=
  ∀ text ∈ texts, ∃ kind, IsLexeme config kind text

/-- Whether items are tokens, none of them the closing one, and then the closing one. -/
inductive CleanPass : List Item → List Token → Prop where
  | closing (place : Position) : CleanPass [.closing place] []
  | token {token : Token} {items : List Item} {tokens : List Token} (inner : token.isEnd = false)
      (later : CleanPass items tokens) : CleanPass (.token token :: items) (token :: tokens)

def Kind.IsNumber (kind : Kind) : Prop :=
  ∃ digits, kind = .integer digits ∨ kind = .floating digits

def Joins (char next : Char) : Prop :=
  (∃ symbol : Operator, symbol.spelling = [char, next]) ∨ char = '/' ∧ next = '/'

/-- Whether the first of some lexemes, written one after the other, runs together with what comes
next. -/
inductive RunsTogether (config : Config) : List Text → Prop where
  | word {kind : Kind} {first second : Text} {rest : List Text}
      (lexeme : IsLexeme config kind first) (label : kind.IsLabel)
      (continues : second.begins isIdentifierContinue = true) :
      RunsTogether config (first :: second :: rest)
  | number {kind : Kind} {first second : Text} {rest : List Text}
      (lexeme : IsLexeme config kind first) (number : kind.IsNumber)
      (digit : second.begins isDigit = true) : RunsTogether config (first :: second :: rest)
  | operator {symbol : Operator} {char next : Char} {second : Text} {rest : List Text}
      (lexeme : IsLexeme config (.operator symbol) [char]) (joins : Joins char next) :
      RunsTogether config ([char] :: (next :: second) :: rest)
  | fraction {digits first third : Text} {rest : List Text}
      (lexeme : IsLexeme config (.integer digits) first) (digit : third.begins isDigit = true) :
      RunsTogether config (first :: ['.'] :: third :: rest)

/-! ## Passes without an error -/

theorem CleanPass.eq_nil {place : Position} {tokens : List Token}
    (clean : CleanPass [.closing place] tokens) : tokens = [] := by
  generalize shape : Item.closing place = item at clean
  cases clean with
  | closing => rfl
  | token inner later =>
    cases shape
    contradiction

/-- The first lexeme of a pass without an error is a token. -/
theorem CleanPass.exists_cons {lexeme : Lexeme} {start stop : Position} {items : List Item}
    {tokens : List Token} (clean : CleanPass (lexeme.between start stop :: items) tokens)
    (inner : (lexeme.between start stop).isEnd = false) :
    ∃ token later, tokens = token :: later ∧ lexeme = ⟨.token token.kind, token.lexeme⟩ ∧
      CleanPass items later := by
  generalize shape : lexeme.between start stop = item at clean inner
  cases clean with
  | closing place => contradiction
  | @token token items later _ clean =>
    exact ⟨token, later, rfl, (Lexeme.of_between_eq_token shape).1, clean⟩

theorem CleanPass.length_le {place : Position} {text : Text} {tokens : List Token}
    (clean : CleanPass (itemsFrom config place text) tokens) :
    (tokens.map Token.lexeme).flatten.length ≤ text.length := by
  induction text using pass_induction config generalizing place tokens with
  | closing gap trivia =>
    rw [itemsFrom_closing config place trivia] at clean
    rw [clean.eq_nil]
    exact Nat.zero_le _
  | step gap lexeme behind step ih =>
    rw [itemsFrom_step place step] at clean
    obtain ⟨token, later, rfl, rfl, clean⟩ := clean.exists_cons (step.isEnd_between _ _)
    have fewer := ih clean
    simp only [List.map_cons, List.flatten_cons, List.length_append]
    omega

/-- Where tokens cover the whole text, the first one is taken at its front and the others are what
is cut from the rest. -/
theorem CleanPass.first {place : Position} {token : Token} {tokens : List Token} {rest : Text}
    (clean : CleanPass (itemsFrom config place (token.lexeme ++ rest)) (token :: tokens))
    (covered : (tokens.map Token.lexeme).flatten = rest) :
    Step config [] ⟨.token token.kind, token.lexeme⟩ rest ∧
      ∃ later, CleanPass (itemsFrom config later rest) tokens := by
  rcases exists_step config (token.lexeme ++ rest) with
    trivia | ⟨gap, lexeme, behind, same, step⟩
  · rw [itemsFrom_closing config place trivia] at clean
    cases clean.eq_nil
  · rw [same, itemsFrom_step place step] at clean
    obtain ⟨_, _, split, rfl, later⟩ := clean.exists_cons (step.isEnd_between _ _)
    obtain ⟨rfl, rfl⟩ := List.cons.inj split
    -- What is cut behind the first token covers the rest, so no gap stands before that token.
    have fewer := later.length_le
    have lengths := congrArg List.length same
    rw [covered] at fewer
    simp only [List.length_append] at lengths
    have none : gap = [] := List.eq_nil_of_length_eq_zero (by omega)
    subst none
    obtain rfl : rest = behind := List.append_cancel_left same
    exact ⟨step, _, later⟩

theorem CleanPass.cons {place : Position} {kind : Kind} {text behind : Text} {tokens : List Token}
    (later : CleanPass (itemsFrom config (place.after text) behind) tokens)
    (step : Step config [] ⟨.token kind, text⟩ behind) :
    CleanPass (itemsFrom config place (text ++ behind))
      (⟨kind, text, place, place.after text⟩ :: tokens) := by
  have taken := itemsFrom_step place step
  rw [List.nil_append, Position.after_nil] at taken
  rw [taken]
  exact .token (step.isEnd_between place (place.after text)) later

/-! ## Lexemes -/

theorem IsLexeme.step {kind : Kind} {text : Text} (lexeme : IsLexeme config kind text) :
    Step config [] ⟨.token kind, text⟩ [] := by
  obtain ⟨inner, start, stop, last, cut⟩ := lexeme
  have clean : CleanPass (itemsFrom config .start (text ++ [])) [⟨kind, text, start, stop⟩] := by
    rw [List.append_nil, ← tokenize_eq_itemsFrom, cut]
    exact .token (by simp [Token.isEnd, inner]) (.closing last)
  have taken := @CleanPass.first config .start ⟨kind, text, start, stop⟩ [] [] clean rfl
  exact taken.1

theorem AreLexemes.head {first : Text} {rest : List Text}
    (lexemes : AreLexemes config (first :: rest)) : ∃ kind, IsLexeme config kind first :=
  lexemes first (List.mem_cons_self ..)

theorem AreLexemes.tail {first : Text} {rest : List Text}
    (lexemes : AreLexemes config (first :: rest)) : AreLexemes config rest := by
  intro text member
  exact lexemes text (List.mem_cons_of_mem first member)

/-- A lexeme that begins with a dot is the dot. -/
theorem Lexical.eq_nil_of_dot {kind : Kind} {rest : Text}
    (lexical : Lexical config kind ('.' :: rest)) : rest = [] := by
  have whole := Lexeme.atFront_lexical lexical (Lexeme.stopsAt_nil config _)
  have stops : Lexeme.StopsAt config rest ⟨.token (.operator .dot), ['.']⟩ := by
    intro char alone
    obtain ⟨rfl, -⟩ := List.cons.inj alone
    exact Lexeme.operatorPair?_dot rest
  have dot := Lexeme.atFront_lexical (.operator .dot) stops
  rw [List.append_nil] at whole
  rw [Operator.spelling, List.singleton_append, whole] at dot
  exact (List.cons.inj (congrArg Lexeme.text dot)).2

/-- What is written first in some lexemes belongs to the first of them. -/
theorem AreLexemes.exists_of_flatten {texts : List Text} (lexemes : AreLexemes config texts)
    {char : Char} {behind : Text} (same : texts.flatten = char :: behind) :
    ∃ tail rest, texts = (char :: tail) :: rest ∧ behind = tail ++ rest.flatten := by
  cases texts with
  | nil => contradiction
  | cons second rest =>
    obtain ⟨_, lexeme⟩ := lexemes.head
    cases second with
    | nil => exact absurd rfl lexeme.step.some
    | cons head tail =>
      obtain ⟨rfl, left⟩ := List.cons.inj same
      exact ⟨tail, rest, rfl, left.symm⟩

theorem AreLexemes.exists_of_begins {test : Char → Bool} {texts : List Text}
    (lexemes : AreLexemes config texts) (begun : Text.begins test texts.flatten = true) :
    ∃ second rest, texts = second :: rest ∧ second.begins test = true := by
  obtain ⟨char, behind, same, tested⟩ := Text.exists_of_begins begun
  obtain ⟨tail, rest, rfl, -⟩ := lexemes.exists_of_flatten same
  exact ⟨char :: tail, rest, rfl, tested⟩

theorem Text.begins_flatten {test : Char → Bool} {second : Text}
    (begun : second.begins test = true) (rest : List Text) :
    begins test (second :: rest).flatten = true := by
  obtain ⟨char, inside, rfl, tested⟩ := Text.exists_of_begins begun
  exact tested

/-! ## The first lexeme -/

/-- A lexeme that runs together with what comes next is not taken there. -/
theorem RunsTogether.not_step {kind : Kind} {first : Text} {rest : List Text}
    (runs : RunsTogether config (first :: rest)) :
    ¬ Step config [] ⟨.token kind, first⟩ rest.flatten := by
  intro step
  have sameKind : ∀ {other : Kind}, IsLexeme config other first → other = kind := by
    intro other lexeme
    exact step.lexical.kind_unique lexeme.step.lexical
  have stops := step.stops
  cases runs with
  | @word _ _ second more lexeme label continues =>
    obtain rfl := sameKind lexeme
    have isWord := lexeme.step.lexical.isWord label
    obtain rfl := (Lexical.word isWord).kind_unique lexeme.step.lexical
    rw [Lexeme.stopsAt_word, Text.begins_flatten continues] at stops
    contradiction
  | @number _ _ second more lexeme number digit =>
    obtain rfl := sameKind lexeme
    have begun := Text.begins_flatten digit more
    obtain ⟨digits, rfl | rfl⟩ := number
    · have ends : Number.Reading.EndsBefore _ _ (.whole digits) := stops
      rw [ends.1.1] at begun
      contradiction
    · have ends : Number.Reading.EndsBefore _ _ (.fractional digits) := stops
      rw [ends.1] at begun
      contradiction
  | @operator symbol char next second more lexeme joins =>
    obtain rfl := sameKind lexeme
    rcases joins with ⟨longer, spelled⟩ | ⟨rfl, rfl⟩
    · have pair : Lexeme.operatorPair? char ((next :: second) :: more).flatten =
          some (longer, next) :=
        Lexeme.operatorPair?_eq_some_iff.mpr ⟨spelled, second ++ more.flatten, rfl⟩
      have alone : Lexeme.operatorPair? char ((next :: second) :: more).flatten = none :=
        stops char rfl
      rw [alone] at pair
      contradiction
    · have apart := step.apart rfl
      contradiction
  | @fraction digits _ third more lexeme digit =>
    obtain rfl := sameKind lexeme
    have ends : Number.Reading.EndsBefore _ _ (.whole digits) := stops
    have starts : Number.startsFraction (['.'] :: third :: more).flatten = true :=
      Number.startsFraction_dot (Text.begins_flatten digit more)
    rw [ends.1.2] at starts
    contradiction

section Apart

variable {kind : Kind} {first : Text} {rest : List Text}

theorem IsLexeme.startsFraction_flatten {digits : Text}
    (lexeme : IsLexeme config (.integer digits) first) (lexemes : AreLexemes config rest)
    (apart : ¬ RunsTogether config (first :: rest)) :
    Number.startsFraction rest.flatten = false := by
  rw [← Bool.not_eq_true]
  intro starts
  obtain ⟨inside, same, digit⟩ := Number.startsFraction_iff.mp starts
  obtain ⟨tail, more, rfl, rfl⟩ := lexemes.exists_of_flatten same
  obtain ⟨_, dot⟩ := lexemes.head
  obtain rfl := dot.step.lexical.eq_nil_of_dot
  rw [List.nil_append] at digit
  obtain ⟨third, others, rfl, begun⟩ := lexemes.tail.exists_of_begins digit
  exact apart (.fraction lexeme begun)

theorem IsLexeme.runsTogether_of_joins {symbol : Operator} {char next : Char}
    (lexeme : IsLexeme config (.operator symbol) [char]) (lexemes : AreLexemes config rest)
    (joins : Joins char next) {behind : Text} (same : rest.flatten = next :: behind) :
    RunsTogether config ([char] :: rest) := by
  obtain ⟨tail, more, rfl, -⟩ := lexemes.exists_of_flatten same
  exact .operator lexeme joins

theorem IsLexeme.stopsAt_flatten (lenient : config.strictNumbers = false)
    (lexeme : IsLexeme config kind first) (lexemes : AreLexemes config rest)
    (apart : ¬ RunsTogether config (first :: rest)) :
    Lexeme.StopsAt config rest.flatten ⟨.token kind, first⟩ := by
  have noDigit : kind.IsNumber → Text.begins isDigit rest.flatten = false := by
    intro number
    rw [← Bool.not_eq_true]
    intro digit
    obtain ⟨second, more, rfl, begun⟩ := lexemes.exists_of_begins digit
    exact apart (.number lexeme number begun)
  cases lexeme.step.lexical with
  | word isWord =>
    rw [Lexeme.stopsAt_word, ← Bool.not_eq_true]
    intro continues
    obtain ⟨second, more, rfl, begun⟩ := lexemes.exists_of_begins continues
    exact apart (.word lexeme (config.kindOf_cases first) begun)
  | integer isDigits =>
    have noFraction := lexeme.startsFraction_flatten lexemes apart
    exact ⟨⟨noDigit ⟨first, Or.inl rfl⟩, noFraction⟩, by simp [lenient]⟩
  | @floating digits fraction isDigits isFraction =>
    exact ⟨noDigit ⟨digits ++ '.' :: fraction, Or.inr rfl⟩, by simp [lenient]⟩
  | string elements => trivial
  | operator symbol =>
    intro char (spelled : symbol.spelling = [char])
    cases found : Lexeme.operatorPair? char rest.flatten with
    | none => rfl
    | some pair =>
      obtain ⟨longer, behind, same⟩ := Lexeme.operatorPair?_eq_some_iff.mp found
      rw [spelled] at lexeme apart
      exact absurd (lexeme.runsTogether_of_joins lexemes (.inl ⟨pair.1, longer⟩) same) apart

/-- A lexeme that does not run together with what comes next is taken there. -/
theorem IsLexeme.step_flatten (lenient : config.strictNumbers = false)
    (lexeme : IsLexeme config kind first) (lexemes : AreLexemes config rest)
    (apart : ¬ RunsTogether config (first :: rest)) :
    Step config [] ⟨.token kind, first⟩ rest.flatten := by
  apply lexeme.step.elsewhere .nil (lexeme.stopsAt_flatten lenient lexemes apart)
  rintro rfl
  obtain rfl : kind = .operator .slash :=
    (Lexical.operator .slash).kind_unique lexeme.step.lexical
  rw [← Bool.not_eq_true]
  intro begun
  obtain ⟨char, behind, same, slash⟩ := Text.exists_of_begins begun
  obtain rfl : char = '/' := beq_iff_eq.mp slash
  exact apart (lexeme.runsTogether_of_joins lexemes (.inr ⟨rfl, rfl⟩) same)

end Apart

/-! ## All lexemes -/

theorem CleanPass.not_runsTogether {place : Position} {tokens : List Token}
    (clean : CleanPass (itemsFrom config place (tokens.map Token.lexeme).flatten) tokens)
    (index : Nat) : ¬ RunsTogether config ((tokens.map Token.lexeme).drop index) := by
  induction tokens generalizing place index with
  | nil =>
    intro runs
    rw [List.map_nil, List.drop_nil] at runs
    cases runs
  | cons token tokens ih =>
    obtain ⟨step, later, clean⟩ := clean.first rfl
    cases index with
    | zero =>
      intro runs
      exact runs.not_step step
    | succ index => exact ih clean index

theorem exists_cleanPass_flatten (lenient : config.strictNumbers = false) (place : Position)
    {texts : List Text} (lexemes : AreLexemes config texts)
    (apart : ∀ index, ¬ RunsTogether config (texts.drop index)) :
    ∃ tokens, CleanPass (itemsFrom config place texts.flatten) tokens ∧
      tokens.map Token.lexeme = texts := by
  induction texts generalizing place with
  | nil =>
    refine ⟨[], ?_, rfl⟩
    rw [List.flatten_nil, itemsFrom_closing config place leadingTrivia_nil]
    exact .closing _
  | cons first rest ih =>
    obtain ⟨kind, lexeme⟩ := lexemes.head
    have step := lexeme.step_flatten lenient lexemes.tail (apart 0)
    obtain ⟨tokens, clean, same⟩ :=
      ih (place.after first) lexemes.tail fun index => apart (index + 1)
    refine ⟨_, clean.cons step, ?_⟩
    rw [List.map_cons, same]

/-- Read leniently, lexemes that are written one after the other are cut into exactly these lexemes
if and only if none of them runs together with what comes next. -/
theorem cleanPass_flatten_iff (config : Config) (lenient : config.strictNumbers = false)
    (texts : List Text) (lexemes : AreLexemes config texts) :
    (∃ tokens, CleanPass (tokenize config texts.flatten) tokens ∧
        tokens.map Token.lexeme = texts) ↔
      ∀ index, ¬ RunsTogether config (texts.drop index) := by
  rw [tokenize_eq_itemsFrom]
  constructor
  · intro cut
    obtain ⟨tokens, clean, same⟩ := cut
    subst same
    exact clean.not_runsTogether
  · intro apart
    exact exists_cleanPass_flatten lenient .start lexemes apart

/-- In `1.5` the integer finds a fraction, so these three lexemes are not cut back. -/
theorem cleanPass_flatten_iff_fraction :
    Config.default.strictNumbers = false ∧
    AreLexemes .default [['1'], ['.'], ['5']] ∧
    ((∃ tokens, CleanPass (tokenize .default [['1'], ['.'], ['5']].flatten) tokens ∧
        tokens.map Token.lexeme = [['1'], ['.'], ['5']]) ↔
      ∀ index, ¬ RunsTogether .default ([['1'], ['.'], ['5']].drop index)) ∧
    RunsTogether .default [['1'], ['.'], ['5']] :=
  have one : IsLexeme .default (.integer ['1']) ['1'] :=
    ⟨nofun, .start, ⟨1, 1, 2⟩, ⟨1, 1, 2⟩, by decide +kernel⟩
  have dot : IsLexeme .default (.operator .dot) ['.'] :=
    ⟨nofun, .start, ⟨1, 1, 2⟩, ⟨1, 1, 2⟩, by decide +kernel⟩
  have five : IsLexeme .default (.integer ['5']) ['5'] :=
    ⟨nofun, .start, ⟨1, 1, 2⟩, ⟨1, 1, 2⟩, by decide +kernel⟩
  have lexemes : AreLexemes .default [['1'], ['.'], ['5']] := by
    intro text member
    simp only [List.mem_cons, List.not_mem_nil, or_false] at member
    rcases member with rfl | rfl | rfl
    · exact ⟨_, one⟩
    · exact ⟨_, dot⟩
    · exact ⟨_, five⟩
  ⟨rfl, lexemes, cleanPass_flatten_iff .default rfl _ lexemes, .fraction one rfl⟩

end Munch
