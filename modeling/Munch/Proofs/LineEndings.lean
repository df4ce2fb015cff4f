import Mathlib.Data.List.Forall2
import Munch.Proofs.Positions

/-! # Line endings

A carriage return in front of every line feed changes no token. The two are blanks behind one another
where a line ends between items, and inside a comment the carriage return is passed with the rest of
it. Only a string that the line feed breaks off takes the carriage return with it, as a plain character
or as one that a last backslash escapes. Lines and columns stay as they are, since nothing but the
line feed stands behind a carriage return, and offsets grow by one for each line feed before them. -/
set_option autoImplicit false

namespace Munch

namespace Text

def toCrlf (text : Text) : Text :=
  text.flatMap fun char => if char = '\n' then ['\r', '\n'] else [char]

@[simp] theorem toCrlf_nil : toCrlf [] = [] := rfl

@[simp] theorem toCrlf_newline (rest : Text) :
    toCrlf ('\n' :: rest) = '\r' :: '\n' :: toCrlf rest := rfl

theorem toCrlf_cons {char : Char} (inLine : char ≠ '\n') (rest : Text) :
    toCrlf (char :: rest) = char :: toCrlf rest := by
  rw [toCrlf, List.flatMap_cons, if_neg inLine]
  rfl

theorem toCrlf_append (first second : Text) :
    toCrlf (first ++ second) = toCrlf first ++ toCrlf second :=
  List.flatMap_append

theorem toCrlf_of_not_mem {text : Text} (inLine : '\n' ∉ text) : toCrlf text = text := by
  induction text with
  | nil => rfl
  | cons char rest ih =>
    obtain ⟨different, later⟩ := List.ne_and_not_mem_of_not_mem_cons inLine
    rw [toCrlf_cons different.symm, ih later]

/-- A test that does not tell the two ends of a line apart has the same answer at both. -/
theorem begins_toCrlf {test : Char → Bool} (same : test '\r' = test '\n') (text : Text) :
    (toCrlf text).begins test = text.begins test := by
  cases text with
  | nil => rfl
  | cons char rest =>
    by_cases feed : char = '\n'
    · rw [feed, toCrlf_newline, begins_cons, begins_cons, same]
    · rw [toCrlf_cons feed, begins_cons, begins_cons]

end Text

/-! ## Trivia -/

theorem startsComment_cons (char : Char) (rest : Text) :
    startsComment (char :: rest) = (char == '/' && rest.begins (· == '/')) := by
  rw [Bool.eq_iff_iff, startsComment_iff, Bool.and_eq_true, beq_iff_eq]
  cases rest with
  | nil => simp
  | cons next rest => simp

theorem acceptTrivia_toCrlf (inComment : Bool) (char : Char) (rest : Text) :
    acceptTrivia inComment char (Text.toCrlf rest) = acceptTrivia inComment char rest := by
  rw [acceptTrivia, acceptTrivia, startsComment_cons, startsComment_cons, Text.begins_toCrlf rfl]

theorem leading_toCrlf (inComment : Bool) (text : Text) :
    (Text.toCrlf text).leading acceptTrivia inComment =
      Text.toCrlf (text.leading acceptTrivia inComment) := by
  induction text generalizing inComment with
  | nil => rfl
  | cons char rest ih =>
    by_cases feed : char = '\n'
    · -- The carriage return leaves a comment open, and the line feed closes it.
      have stays : acceptTrivia inComment '\r' ('\n' :: Text.toCrlf rest) = some inComment := by
        cases inComment <;> rfl
      have closes : ∀ behind, acceptTrivia inComment '\n' behind = some false := by
        intro behind
        cases inComment <;> rfl
      subst feed
      rw [Text.toCrlf_newline, Text.leading_cons, stays]
      simp only [Text.leading_cons, closes, ih, Text.toCrlf_newline]
    · rw [Text.toCrlf_cons feed, Text.leading_cons, Text.leading_cons, acceptTrivia_toCrlf]
      cases acceptTrivia inComment char rest with
      | none => rfl
      | some next =>
        simp only
        rw [ih, Text.toCrlf_cons feed]

theorem leadingTrivia_toCrlf (text : Text) :
    leadingTrivia (Text.toCrlf text) = Text.toCrlf (leadingTrivia text) :=
  leading_toCrlf false text

/-! ## Steps -/

theorem Number.startsFraction_toCrlf (text : Text) :
    startsFraction (Text.toCrlf text) = startsFraction text := by
  rw [Bool.eq_iff_iff, startsFraction_iff, startsFraction_iff]
  cases text with
  | nil => rfl
  | cons char rest =>
    by_cases feed : char = '\n'
    · simp [feed]
    · have digit : Text.begins isDigit (Text.toCrlf rest) = Text.begins isDigit rest :=
        Text.begins_toCrlf rfl rest
      simp [Text.toCrlf_cons feed, digit]

/-- A lexeme stops before a carriage return as it stops before a line feed, unless it is a string that
the line feed breaks off. -/
theorem Lexeme.StopsAt.toCrlf {config : Config} {lexeme : Lexeme} {behind : Text}
    (stops : lexeme.StopsAt config behind) (inner : lexeme.verdict ≠ .token .endOfInput)
    (whole : lexeme.verdict = .error .unterminatedString → behind.begins (· == '\n') = false) :
    lexeme.StopsAt config (Text.toCrlf behind) := by
  cases behind with
  | nil => exact stops
  | cons char rest =>
    by_cases feed : char = '\n'
    · subst feed
      apply stopsAt_blank config (by decide) _ inner
      intro unterminated
      have apart := whole unterminated
      contradiction
    · have fraction := Number.startsFraction_toCrlf (char :: rest)
      rw [Text.toCrlf_cons feed] at fraction ⊢
      have head : (char :: Text.toCrlf rest).head? = (char :: rest).head? := rfl
      exact (stopsAt_congr config head fraction lexeme).mpr stops

theorem Step.toCrlf_text {config : Config} {gap : Text} {lexeme : Lexeme} {behind : Text}
    (step : Step config gap lexeme behind) : Text.toCrlf (gap ++ (lexeme.text ++ behind)) =
      Text.toCrlf gap ++ (lexeme.text ++ Text.toCrlf behind) := by
  rw [Text.toCrlf_append, Text.toCrlf_append, Text.toCrlf_of_not_mem step.newline_not_mem]

/-- A step stays what it is, unless it takes a string that a line feed breaks off. -/
theorem Step.toCrlf {config : Config} {gap : Text} {lexeme : Lexeme} {behind : Text}
    (step : Step config gap lexeme behind)
    (whole : lexeme.verdict = .error .unterminatedString → behind.begins (· == '\n') = false) :
    Step config (Text.toCrlf gap) lexeme (Text.toCrlf behind) where
  trivia := by rw [← step.toCrlf_text, leadingTrivia_toCrlf, step.trivia]
  front := Lexeme.atFront_eq step.formed (step.stops.toCrlf step.verdict_ne whole)
  some := step.some

/-- A string that a line feed breaks off takes the carriage return in front of it. -/
theorem Step.toCrlf_broken {config : Config} {gap : Text} {lexeme : Lexeme} {rest : Text}
    (step : Step config gap lexeme ('\n' :: rest))
    (broken : lexeme.verdict = .error .unterminatedString) :
    Step config (Text.toCrlf gap) ⟨.error .unterminatedString, lexeme.text ++ ['\r']⟩
      ('\n' :: Text.toCrlf rest) where
  trivia := by
    have same := step.toCrlf_text
    rw [Text.toCrlf_newline] at same
    rw [List.append_assoc, List.singleton_append, ← same, leadingTrivia_toCrlf, step.trivia]
  front := by
    cases step.formed with
    | closing => cases broken
    | token _ => cases broken
    | malformed _ => cases broken
    | illegal _ => cases broken
    | @unterminated inside isOpen =>
      have longer : StringLiteral.OpenBody (inside ++ ['\r']) :=
        isOpen.append_char (by decide) (by decide) (by decide)
      exact Lexeme.atFront_eq (.unterminated longer) rfl
  some := by simp

theorem Step.itemsFrom_toCrlf {config : Config} {gap : Text} {lexeme : Lexeme} {behind : Text}
    (step : Step config gap lexeme behind)
    (whole : lexeme.verdict = .error .unterminatedString → behind.begins (· == '\n') = false)
    (place : Position) :
    itemsFrom config place (Text.toCrlf (gap ++ (lexeme.text ++ behind))) =
      lexeme.between (place.after (Text.toCrlf gap))
          ((place.after (Text.toCrlf gap)).after lexeme.text) ::
        itemsFrom config ((place.after (Text.toCrlf gap)).after lexeme.text)
          (Text.toCrlf behind) := by
  rw [step.toCrlf_text, itemsFrom_step place (step.toCrlf whole)]

/-- Behind a string that a line feed breaks off the pass goes on as behind any other item: the carriage
return, had the string not taken it, would be passed as a blank. -/
theorem Step.itemsFrom_toCrlf_broken {config : Config} {gap : Text} {lexeme : Lexeme} {behind : Text}
    (step : Step config gap lexeme behind)
    (unterminated : lexeme.verdict = .error .unterminatedString)
    (feed : behind.begins (· == '\n') = true) (place : Position) :
    itemsFrom config place (Text.toCrlf (gap ++ (lexeme.text ++ behind))) =
      Lexeme.between ⟨.error .unterminatedString, lexeme.text ++ ['\r']⟩
          (place.after (Text.toCrlf gap))
          ((place.after (Text.toCrlf gap)).after (lexeme.text ++ ['\r'])) ::
        itemsFrom config ((place.after (Text.toCrlf gap)).after lexeme.text)
          (Text.toCrlf behind) := by
  cases behind with
  | nil => contradiction
  | cons char rest =>
    obtain rfl := eq_of_beq feed
    have blank := itemsFrom_blank config ((place.after (Text.toCrlf gap)).after lexeme.text)
      (rfl : isWhitespace '\r' = true) ('\n' :: Text.toCrlf rest)
    have text : Text.toCrlf (gap ++ (lexeme.text ++ '\n' :: rest)) =
        Text.toCrlf gap ++ (lexeme.text ++ ['\r'] ++ '\n' :: Text.toCrlf rest) := by
      rw [step.toCrlf_text, Text.toCrlf_newline, List.append_assoc, List.singleton_append]
    rw [text, itemsFrom_step place (step.toCrlf_broken unterminated), Text.toCrlf_newline, blank,
      Position.after_append _ lexeme.text]
    rfl

/-! ## Places -/

theorem Position.after_toCrlf (place : Position) (text : Text) :
    place.after (Text.toCrlf text) = (place.after text).shift (text.count '\n') 0 := by
  induction text generalizing place with
  | nil => rfl
  | cons char rest ih =>
    by_cases feed : char = '\n'
    · subst feed
      have wider : (place.advance '\r').advance '\n' = (place.advance '\n').shift 1 0 := rfl
      rw [Text.toCrlf_newline, after_cons, after_cons, wider, shift_after, ih, List.count_cons_self,
        after_cons]
      simp only [shift, mk.injEq, and_true]
      omega
    · rw [Text.toCrlf_cons feed, after_cons, ih, List.count_cons_of_ne feed, after_cons]

/-- Whether a place is what another place of a source becomes when its lines end with a carriage return
as well: it is on the same line at the same column, a byte further for each line feed before it. -/
structure Position.InCrlf (source : Text) (place other : Position) : Prop where
  line : other.line = place.line
  column : other.column = place.column
  offset : ∃ before, source.takeBytes place.offset = some before ∧
    other.offset = place.offset + before.count '\n'

theorem Position.inCrlf_start_after {source before behind : Text} (same : source = before ++ behind) :
    (start.after before).InCrlf source (start.after (Text.toCrlf before)) := by
  have taken : source.takeBytes (start.after before).offset = some before := by
    rw [same, offset_start_after]
    exact Text.takeBytes_append before behind
  rw [after_toCrlf]
  exact ⟨rfl, rfl, before, taken, rfl⟩

/-! ## Items -/

def LexError.IsBroken (source : Text) (error : LexError) : Prop :=
  error.fault = .unterminatedString ∧
    ∃ behind, source.dropBytes (error.position.offset + error.offendingText.utf8Length) =
      some ('\n' :: behind)

/-- Whether an item is what another item of a source becomes when its lines end with a carriage return
as well. -/
inductive Item.InCrlf (source : Text) : Item → Item → Prop where
  | token {found other : Token} (kind : other.kind = found.kind)
      (lexeme : other.lexeme = found.lexeme) (start : found.start.InCrlf source other.start)
      (stop : found.stop.InCrlf source other.stop) : InCrlf source (.token found) (.token other)
  | error {found other : LexError} (whole : ¬ found.IsBroken source)
      (fault : other.fault = found.fault) (position : found.position.InCrlf source other.position)
      (text : other.offendingText = found.offendingText) : InCrlf source (.error found) (.error other)
  | broken {found other : LexError} (broken : found.IsBroken source)
      (fault : other.fault = found.fault) (position : found.position.InCrlf source other.position)
      (text : other.offendingText = found.offendingText ++ ['\r']) :
      InCrlf source (.error found) (.error other)

section Source

variable {source before behind : Text} {lexeme : Lexeme}

theorem LexError.isBroken_iff (same : source = before ++ (lexeme.text ++ behind)) (fault : Fault) :
    (LexError.mk fault (Position.start.after before) lexeme.text).IsBroken source ↔
      fault = .unterminatedString ∧ behind.begins (· == '\n') = true := by
  have dropped : source.dropBytes ((Position.start.after before).offset + lexeme.text.utf8Length) =
      some behind := by
    rw [Position.offset_start_after, ← Text.utf8Length_append, same, ← List.append_assoc]
    exact Text.dropBytes_append (before ++ lexeme.text) behind
  simp only [IsBroken, dropped, Option.some.injEq]
  cases behind with
  | nil => simp
  | cons char rest => simp

theorem Lexeme.inCrlf_between (same : source = before ++ (lexeme.text ++ behind))
    (inLine : '\n' ∉ lexeme.text)
    (whole : lexeme.verdict = .error .unterminatedString → behind.begins (· == '\n') = false) :
    Item.InCrlf source
      (lexeme.between (Position.start.after before) ((Position.start.after before).after lexeme.text))
      (lexeme.between (Position.start.after (Text.toCrlf before))
        ((Position.start.after (Text.toCrlf before)).after lexeme.text)) := by
  have start := Position.inCrlf_start_after same
  have split : source = before ++ lexeme.text ++ behind := by rw [same, List.append_assoc]
  have stop := Position.inCrlf_start_after split
  rw [Text.toCrlf_append, Text.toCrlf_of_not_mem inLine, Position.after_append,
    Position.after_append] at stop
  unfold between
  cases shape : lexeme.verdict with
  | token kind => exact .token rfl rfl start stop
  | error fault =>
    refine .error ?_ rfl start rfl
    rw [LexError.isBroken_iff same]
    rintro ⟨rfl, feed⟩
    rw [whole shape] at feed
    contradiction

theorem Lexeme.inCrlf_between_broken (same : source = before ++ (lexeme.text ++ behind))
    (broken : lexeme.verdict = .error .unterminatedString)
    (feed : behind.begins (· == '\n') = true) (stop otherStop : Position) :
    Item.InCrlf source (lexeme.between (Position.start.after before) stop)
      (between ⟨.error .unterminatedString, lexeme.text ++ ['\r']⟩
        (Position.start.after (Text.toCrlf before)) otherStop) := by
  have start := Position.inCrlf_start_after same
  unfold between
  rw [broken]
  exact .broken ((LexError.isBroken_iff same _).mpr ⟨rfl, feed⟩) rfl start rfl

end Source

/-! ## Passes -/

theorem itemsFrom_toCrlf (config : Config) {source before text : Text} (same : source = before ++ text) :
    List.Forall₂ (Item.InCrlf source) (itemsFrom config (Position.start.after before) text)
      (itemsFrom config (Position.start.after (Text.toCrlf before)) (Text.toCrlf text)) := by
  induction text using pass_induction config generalizing before with
  | closing gap trivia =>
    have whole : leadingTrivia (Text.toCrlf gap) = Text.toCrlf gap := by
      rw [leadingTrivia_toCrlf, trivia]
    have split : source = before ++ gap ++ [] := by rw [same, List.append_nil]
    have place := Position.inCrlf_start_after split
    rw [Text.toCrlf_append] at place
    rw [itemsFrom_closing config _ trivia, itemsFrom_closing config _ whole,
      ← Position.after_append, ← Position.after_append]
    exact .cons (.token rfl rfl place place) .nil
  | step gap lexeme behind step ih =>
    have inLine := step.newline_not_mem
    have split : source = before ++ gap ++ (lexeme.text ++ behind) := by
      rw [same, List.append_assoc]
    have passed : source = before ++ gap ++ lexeme.text ++ behind := by
      rw [split, List.append_assoc (before ++ gap)]
    have later := ih passed
    simp only [Text.toCrlf_append, Text.toCrlf_of_not_mem inLine, Position.after_append] at later
    rw [itemsFrom_step _ step]
    by_cases broken : lexeme.verdict = .error .unterminatedString ∧ behind.begins (· == '\n') = true
    · obtain ⟨unterminated, feed⟩ := broken
      have item := Lexeme.inCrlf_between_broken split unterminated feed
      simp only [Text.toCrlf_append, Position.after_append] at item
      rw [step.itemsFrom_toCrlf_broken unterminated feed]
      exact .cons (item _ _) later
    · have whole : lexeme.verdict = .error .unterminatedString →
          behind.begins (· == '\n') = false := by
        intro unterminated
        rw [← Bool.not_eq_true]
        intro feed
        exact broken ⟨unterminated, feed⟩
      have item := Lexeme.inCrlf_between split inLine whole
      simp only [Text.toCrlf_append, Position.after_append] at item
      rw [step.itemsFrom_toCrlf whole]
      exact .cons item later

/-- A source with a carriage return in front of each line feed has the items of the source: no token
changes, places move by the bytes that were put before them, and only a string that a line feed breaks
off is a carriage return longer. -/
theorem tokenize_toCrlf (config : Config) (source : Text) :
    List.Forall₂ (Item.InCrlf source) (tokenize config source)
      (tokenize config (Text.toCrlf source)) := by
  rw [tokenize_eq_itemsFrom, tokenize_eq_itemsFrom]
  exact @itemsFrom_toCrlf config source [] source rfl

/-- The backslash that ends a line escapes the carriage return, and the string is broken off all the
same; the name behind it only moves. -/
example : (tokenize .default ['"', '\\', '\n', 'b']).map (fun item => (item.start, item.text)) =
      [(⟨0, 1, 1⟩, ['"', '\\']), (⟨3, 2, 1⟩, ['b']), (⟨4, 2, 2⟩, [])] ∧
    (tokenize .default ['"', '\\', '\r', '\n', 'b']).map (fun item => (item.start, item.text)) =
      [(⟨0, 1, 1⟩, ['"', '\\', '\r']), (⟨4, 2, 1⟩, ['b']), (⟨5, 2, 2⟩, [])] := by
  decide +kernel

end Munch
