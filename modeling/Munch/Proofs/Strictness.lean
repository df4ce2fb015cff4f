import Munch.Proofs.Seams
import Munch.Proofs.Spans

/-! # Strict numbers refine lenient ones

Under the same reserved words a strict pass and a lenient one cut a source differently only inside
malformed numbers. A malformed number is glued throughout and nothing is glued to its end, so its
end is a seam of the lenient pass: what is read of the run by itself is what is read of it in the
source. -/
set_option autoImplicit false

namespace Munch

def Config.lenient (reserved : WordSet) : Config := ⟨reserved, false⟩

def Config.strict (reserved : WordSet) : Config := ⟨reserved, true⟩

variable {reserved : WordSet}

/-! ## Steps outside malformed numbers -/

theorem Lexical.lenient {kind : Kind} {text : Text}
    (lexical : Lexical (.strict reserved) kind text) : Lexical (.lenient reserved) kind text := by
  cases lexical with
  | word isWord => exact .word isWord
  | integer isDigits => exact .integer isDigits
  | floating isDigits isFraction => exact .floating isDigits isFraction
  | string elements => exact .string elements
  | operator symbol => exact .operator symbol

theorem Lexeme.Formed.lenient {lexeme : Lexeme} (formed : lexeme.Formed (.strict reserved))
    (sound : lexeme.verdict ≠ .error .malformedNumber) : lexeme.Formed (.lenient reserved) := by
  cases formed with
  | closing => exact .closing
  | token lexical => exact .token lexical.lenient
  | malformed _ => exact absurd rfl sound
  | unterminated isOpen => exact .unterminated isOpen
  | illegal nothing => exact .illegal nothing

theorem Number.Reading.EndsBefore.lenient {reading : Number.Reading} {behind : Text}
    (ends : reading.EndsBefore true behind) : reading.EndsBefore false behind :=
  ⟨ends.1, fun impossible => by contradiction⟩

theorem Lexeme.StopsAt.lenient {lexeme : Lexeme} {behind : Text}
    (stops : lexeme.StopsAt (.strict reserved) behind) :
    lexeme.StopsAt (.lenient reserved) behind := by
  unfold StopsAt at stops ⊢
  split at stops
  · exact stops
  · exact stops
  · exact stops
  · exact stops
  · exact Number.Reading.EndsBefore.lenient stops
  · exact Number.Reading.EndsBefore.lenient stops
  · trivial
  · exact stops
  · exact stops
  · exact stops
  · exact stops

theorem Step.lenient {gap : Text} {lexeme : Lexeme} {rest : Text}
    (step : Step (.strict reserved) gap lexeme rest)
    (sound : lexeme.verdict ≠ .error .malformedNumber) :
    Step (.lenient reserved) gap lexeme rest where
  trivia := step.trivia
  front := Lexeme.atFront_eq (step.formed.lenient sound) step.stops.lenient
  some := step.some

/-! ## The end of a malformed number is a seam -/

theorem leadingTrivia_glued {text : Text} (glued : Number.gluedPart text = text) :
    leadingTrivia text = [] := by
  cases text with
  | nil => rfl
  | cons char rest =>
    have member : char ∈ Number.gluedPart (char :: rest) := by
      rw [glued]
      exact List.mem_cons_self ..
    have visible : isWhitespace char = false ∧ char ≠ '/' := by
      rcases Number.of_mem_gluedPart member with continues | rfl
      · constructor
        · exact not_isWhitespace_of_isIdentifierContinue continues
        · rintro rfl
          contradiction
      · decide
    exact leadingTrivia_eq_nil_of_ne visible.1 visible.2

theorem Lexeme.operatorPair?_glued {char : Char}
    (inRun : isIdentifierContinue char = true ∨ char = '.') (rest : Text) :
    operatorPair? char rest = none := by
  rcases inRun with continues | rfl
  · refine operatorPair?_blank ?_ rest
    intro operator
    have apart := not_isIdentifierContinue_of_isOperatorChar (isOperatorChar_of_classify operator)
    rw [apart] at continues
    contradiction
  · exact operatorPair?_dot rest

/-- What a lenient reader takes from the end of a glued run stops where nothing more is glued. -/
theorem Lexeme.Formed.stopsAt_loose {lexeme : Lexeme} (formed : lexeme.Formed (.lenient reserved))
    (some : lexeme.text ≠ []) (glued : Number.gluedPart lexeme.text = lexeme.text)
    {behind : Text} (loose : Number.gluedPart behind = []) :
    lexeme.StopsAt (.lenient reserved) behind := by
  obtain ⟨noName, noFraction⟩ := Number.gluedPart_eq_nil_iff.mp loose
  have noDigit : behind.begins isDigit = false := Text.begins_weaken (fun _ => not_isDigit) noName
  have inRun : ∀ char ∈ lexeme.text, isIdentifierContinue char = true ∨ char = '.' := by
    intro char member
    rw [← glued] at member
    exact Number.of_mem_gluedPart member
  cases formed with
  | closing => exact absurd rfl some
  | token lexical =>
    cases lexical with
    | word isWord => exact stopsAt_word.mpr noName
    | integer _ => exact ⟨⟨noDigit, noFraction⟩, fun _ => loose⟩
    | floating _ _ => exact ⟨noDigit, fun _ => loose⟩
    | string elements => trivial
    | operator symbol =>
      intro char spelled
      refine operatorPair?_glued (inRun char ?_) behind
      rw [spelled]
      exact List.mem_singleton_self char
  | malformed _ => exact loose
  | unterminated isOpen =>
    rcases inRun '"' (List.mem_cons_self ..) with continues | dot
    · exact absurd continues (by decide)
    · exact absurd dot (by decide)
  | @illegal char nothing =>
    exact operatorPair?_glued (inRun char (List.mem_singleton_self char)) behind

/-- Where nothing is glued to the end of a glued run, a lenient pass over the run does not look
further. -/
theorem seam_glued {run behind : Text} (glued : Number.gluedPart run = run)
    (loose : Number.gluedPart behind = []) : Seam (.lenient reserved) run behind where
  closing := by
    intro gap inside trivia
    have empty := leadingTrivia_glued (Number.glued_of_suffix inside glued)
    rw [trivia] at empty
    subst empty
    rfl
  step := by
    intro gap lexeme rest inside step
    have ahead : lexeme.text ++ rest <:+ run := (List.suffix_append gap _).trans inside
    have gluedAhead := Number.glued_of_suffix ahead glued
    refine step.extend ?_ ?_
    · by_cases finished : rest = []
      · subst finished
        rw [List.append_nil] at gluedAhead
        exact step.formed.stopsAt_loose step.some gluedAhead loose
      · have gluedRest := Number.glued_of_suffix (List.suffix_append lexeme.text rest) gluedAhead
        have noDot := Number.ne_dot_of_glued gluedRest
        exact (Lexeme.stopsAt_append _ lexeme finished noDot behind).mpr step.stops
    · intro slash
      rw [slash] at gluedAhead
      exact absurd gluedAhead (by decide)

/-! ## Expanding malformed numbers -/

def Item.isMalformed : Item → Bool
  | .token _ => false
  | .error found => found.fault == .malformedNumber

/-- What an item of a strict pass is in a lenient one: a malformed number is what a lenient pass
over its text gives, moved to where it stands, and everything else is what it is. -/
def Item.expand (reserved : WordSet) (item : Item) : List Item :=
  if item.isMalformed then
    (withoutEnd (tokenize (.lenient reserved) item.text)).map
      (Item.moved (Position.relocate item.start))
  else [item]

theorem expand_malformed {item : Item} (malformed : item.isMalformed = true) :
    item.expand reserved =
      withoutEnd (itemsFrom (.lenient reserved) item.start item.text) := by
  rw [Item.expand, if_pos malformed, tokenize_eq_itemsFrom, ← withoutEnd_moved,
    ← itemsFrom_relocate]

theorem expand_sound {item : Item} (sound : item.isMalformed = false) :
    item.expand reserved = [item] := by
  rw [Item.expand, if_neg (by simp [sound])]

theorem Lexeme.isMalformed_between (lexeme : Lexeme) (start stop : Position) :
    (lexeme.between start stop).isMalformed = true ↔
      lexeme.verdict = .error .malformedNumber := by
  unfold between
  cases lexeme.verdict with
  | token kind => simp [Item.isMalformed]
  | error fault => simp [Item.isMalformed]

theorem Step.malformed_of_verdict {config : Config} {gap : Text} {lexeme : Lexeme} {behind : Text}
    (step : Step config gap lexeme behind) (spoiled : lexeme.verdict = .error .malformedNumber) :
    (Number.Reading.malformed lexeme.text).Formed config.strictNumbers ∧
      Number.gluedPart behind = [] := by
  have stops := step.stops
  cases step.formed with
  | closing => cases spoiled
  | token _ => cases spoiled
  | malformed formed => exact ⟨formed, stops⟩
  | unterminated _ => cases spoiled
  | illegal _ => cases spoiled

theorem itemsFrom_expand (place : Position) (text : Text) :
    (itemsFrom (.strict reserved) place text).flatMap (Item.expand reserved) =
      itemsFrom (.lenient reserved) place text := by
  induction text using pass_induction (.strict reserved) generalizing place with
  | closing gap trivia =>
    rw [itemsFrom_closing _ place trivia, itemsFrom_closing _ place trivia]
    rfl
  | step gap lexeme behind step ih =>
    have kind := lexeme.isMalformed_between (place.after gap)
      ((place.after gap).after lexeme.text)
    rw [itemsFrom_step place step, List.flatMap_cons, ih]
    by_cases spoiled : lexeme.verdict = .error .malformedNumber
    -- The end of the run is a seam, so the lenient pass goes over the run as if it were alone.
    · obtain ⟨formed, loose⟩ := step.malformed_of_verdict spoiled
      obtain ⟨-, -, glued, -⟩ := formed.malformed_run
      have seam : Seam (.lenient reserved) lexeme.text behind := seam_glued glued loose
      have gap := itemsFrom_gap (.lenient reserved) place (gap ++ (lexeme.text ++ behind))
      rw [step.trivia, List.drop_left] at gap
      rw [expand_malformed (kind.mpr spoiled), gap, itemsFrom_append seam, Lexeme.start_between,
        Lexeme.text_between]
    · have sound : (lexeme.between (place.after gap)
          ((place.after gap).after lexeme.text)).isMalformed = false := by
        rw [← Bool.not_eq_true, kind]
        exact spoiled
      rw [expand_sound sound, itemsFrom_step place (step.lenient spoiled)]
      rfl

theorem flatMap_expand_tokenize (reserved : WordSet) (source : Text) :
    (tokenize (.strict reserved) source).flatMap (Item.expand reserved) =
      tokenize (.lenient reserved) source := by
  rw [tokenize_eq_itemsFrom, tokenize_eq_itemsFrom, itemsFrom_expand]

/-! ## What strictness leaves as it is -/

def Item.beginsIn (item outer : Item) : Bool :=
  outer.span.1 ≤ item.span.1 && item.span.1 < outer.span.2

def Item.isOutside (pass : List Item) (item : Item) : Bool :=
  pass.all fun outer => !(outer.isMalformed && item.beginsIn outer)

theorem Item.span_of_isMalformed {item : Item} (malformed : item.isMalformed = true) :
    item.span = (item.start.offset, item.start.offset + item.text.utf8Length) := by
  cases item with
  | token found => contradiction
  | error found => rfl

theorem Item.isEnd_of_isMalformed {item : Item} (malformed : item.isMalformed = true) :
    item.isEnd = false := by
  cases item with
  | token found => contradiction
  | error found => rfl

theorem beginsIn_self {config : Config} {source : Text} {item : Item}
    (member : item ∈ tokenize config source) (malformed : item.isMalformed = true) :
    item.beginsIn item = true := by
  rw [tokenize_eq_itemsFrom] at member
  obtain ⟨_, _, -, -, visible, -⟩ := exists_location config .start source member
  have length := Text.utf8Length_pos (visible (Item.isEnd_of_isMalformed malformed))
  have span := Item.span_of_isMalformed malformed
  simp only [Item.beginsIn, span, Bool.and_eq_true, decide_eq_true_eq]
  omega

theorem beginsIn_of_mem_expand {item outer : Item} (malformed : outer.isMalformed = true)
    (member : item ∈ outer.expand reserved) : item.beginsIn outer = true := by
  rw [expand_malformed malformed] at member
  obtain ⟨inside, inner⟩ := List.mem_filter.mp member
  obtain ⟨passed, behind, same, span, visible, -⟩ :=
    exists_location (.lenient reserved) outer.start outer.text inside
  have length := Text.utf8Length_pos (visible (by simpa using inner))
  have total : outer.text.utf8Length =
      passed.utf8Length + (item.text.utf8Length + Text.utf8Length behind) := by
    rw [same, Text.utf8Length_append, Text.utf8Length_append]
  have outerSpan := Item.span_of_isMalformed malformed
  simp only [Item.beginsIn, span, outerSpan, Bool.and_eq_true, decide_eq_true_eq]
  omega

theorem not_isOutside {pass : List Item} {item outer : Item} (member : outer ∈ pass)
    (malformed : outer.isMalformed = true) (begins : item.beginsIn outer = true) :
    item.isOutside pass = false := by
  rw [← Bool.not_eq_true]
  intro outside
  have refused := List.all_eq_true.mp outside outer member
  rw [malformed, begins] at refused
  contradiction

theorem filter_isOutside_expand {source : Text} {items : List Item}
    (part : items ⊆ tokenize (.strict reserved) source) :
    (items.flatMap (Item.expand reserved)).filter
        (Item.isOutside (tokenize (.strict reserved) source)) =
      items.filter (Item.isOutside (tokenize (.strict reserved) source)) := by
  induction items with
  | nil => rfl
  | cons item rest ih =>
    obtain ⟨member, later⟩ := List.cons_subset.mp part
    rw [List.flatMap_cons, List.filter_append, ih later]
    cases malformed : item.isMalformed with
    | true =>
      have itself := not_isOutside member malformed (beginsIn_self member malformed)
      have none : (item.expand reserved).filter
          (Item.isOutside (tokenize (.strict reserved) source)) = [] := by
        rw [List.filter_eq_nil_iff]
        intro inner within
        rw [not_isOutside member malformed (beginsIn_of_mem_expand malformed within)]
        exact Bool.false_ne_true
      rw [none, List.filter_cons_of_neg (by simp [itself]), List.nil_append]
    | false =>
      rw [expand_sound malformed, ← List.filter_append, List.singleton_append]

/-! ## Sources without malformed numbers -/

/-- Whether an item is a number with a character of a name, or a dot and a digit, directly behind. -/
def Item.IsGluedNumber (source : Text) : Item → Prop
  | .token ⟨.integer _, _, _, stop⟩ | .token ⟨.floating _, _, _, stop⟩ =>
    ∃ behind, source.dropBytes stop.offset = some behind ∧
      (behind.begins isIdentifierContinue = true ∨ Number.startsFraction behind = true)
  | _ => False

theorem isGluedNumber_between {number : Number.Reading} (plain : number.Plain) {source : Text}
    {start stop : Position} {behind : Text} (ahead : source.dropBytes stop.offset = some behind)
    (glued : Number.gluedPart behind ≠ []) :
    ((Lexeme.ofReading number).between start stop).IsGluedNumber source := by
  have continued : behind.begins isIdentifierContinue = true ∨
      Number.startsFraction behind = true := by
    cases name : Text.begins isIdentifierContinue behind with
    | true => exact Or.inl rfl
    | false =>
      refine Or.inr ?_
      rw [← Bool.not_eq_false]
      intro noFraction
      exact glued (Number.gluedPart_eq_nil_iff.mpr ⟨name, noFraction⟩)
  cases plain with
  | whole _ => exact ⟨behind, ahead, continued⟩
  | fractional _ _ => exact ⟨behind, ahead, continued⟩

theorem step_number {number : Number.Reading} (plain : number.Plain) {more : Text}
    (stops : number.StopsAt more)
    (glued : Number.gluedPart (number.text ++ more) = number.text ++ more) :
    Step (.lenient reserved) [] (Lexeme.ofReading number) more where
  trivia := by
    rw [Lexeme.text_ofReading]
    exact leadingTrivia_glued glued
  front := by
    have ends : number.EndsBefore false more := ⟨stops, fun impossible => by contradiction⟩
    rw [Lexeme.text_ofReading]
    exact Lexeme.atFront_reading (.plain plain) ends
  some := by
    intro none
    have begins := plain.begins []
    rw [← Lexeme.text_ofReading, none] at begins
    contradiction

/-- A malformed number begins with a number to which the rest of it is glued. -/
theorem exists_isGluedNumber {source : Text} {item : Item}
    (member : item ∈ tokenize (.strict reserved) source) (malformed : item.isMalformed = true) :
    ∃ number ∈ tokenize (.lenient reserved) source, number.IsGluedNumber source := by
  have given := member
  rw [tokenize_eq_itemsFrom] at given
  obtain ⟨passed, gap, lexeme, behind, same, step, found⟩ :=
    exists_of_mem_itemsFrom _ .start source given (Item.isEnd_of_isMalformed malformed)
  have spoiled : lexeme.verdict = .error .malformedNumber := by
    rw [found, Lexeme.isMalformed_between] at malformed
    exact malformed
  obtain ⟨formed, loose⟩ := step.malformed_of_verdict spoiled
  obtain ⟨-, digit, glued, noNumber⟩ := formed.malformed_run
  obtain ⟨number, more, run, plain, stops, moreGlued, some⟩ :=
    Number.exists_number digit glued noNumber
  have text := Lexeme.text_ofReading number
  rw [run] at glued
  have first : Step (.lenient reserved) [] (Lexeme.ofReading number) more :=
    step_number plain stops glued
  have start : item.start = Position.start.after (passed ++ gap) := by
    rw [found, Lexeme.start_between]
  refine ⟨(Lexeme.ofReading number).between item.start (item.start.after number.text), ?_, ?_⟩
  · have items := itemsFrom_step item.start first
    rw [List.nil_append, text, ← run, Position.after_nil] at items
    have whole : item.text = lexeme.text := by rw [found, Lexeme.text_between]
    rw [← flatMap_expand_tokenize]
    refine List.mem_flatMap.mpr ⟨item, member, ?_⟩
    rw [expand_malformed malformed, whole, items, withoutEnd_cons_inner (first.isEnd_between _ _)]
    exact List.mem_cons_self ..
  · have offset : (item.start.after number.text).offset =
        (passed ++ gap ++ number.text).utf8Length := by
      rw [start, ← Position.after_append, Position.offset_start_after]
    have split : source = passed ++ gap ++ number.text ++ (more ++ behind) := by
      rw [same, run]
      simp only [List.append_assoc]
    have ahead : source.dropBytes (item.start.after number.text).offset =
        Option.some (more ++ behind) := by
      rw [offset, split, Text.dropBytes_append]
    refine isGluedNumber_between plain ahead ?_
    rw [Number.gluedPart_append moreGlued, loose, List.append_nil]
    exact some

theorem flatMap_expand_sound {items : List Item}
    (sound : ∀ item ∈ items, item.isMalformed = false) :
    items.flatMap (Item.expand reserved) = items := by
  induction items with
  | nil => rfl
  | cons item rest ih =>
    have later := ih fun inner member => sound inner (List.mem_cons_of_mem _ member)
    rw [List.flatMap_cons, expand_sound (sound item (List.mem_cons_self ..)), later,
      List.singleton_append]

/-- How a strict pass over a source and a lenient one differ. -/
structure StrictRefinesLenient (reserved : WordSet) (source : Text) : Prop where
  expands : (tokenize (.strict reserved) source).flatMap (Item.expand reserved) =
    tokenize (.lenient reserved) source
  unchanged : (tokenize (.strict reserved) source).filter
      (Item.isOutside (tokenize (.strict reserved) source)) =
    (tokenize (.lenient reserved) source).filter
      (Item.isOutside (tokenize (.strict reserved) source))
  same : (∀ item ∈ tokenize (.lenient reserved) source, ¬ item.IsGluedNumber source) →
    tokenize (.strict reserved) source = tokenize (.lenient reserved) source

/-- Under all reserved words and for every source, strict numbers refine lenient ones. -/
theorem strictRefinesLenient_tokenize (reserved : WordSet) (source : Text) :
    StrictRefinesLenient reserved source where
  expands := flatMap_expand_tokenize reserved source
  unchanged := by
    have filtered := filter_isOutside_expand (List.Subset.refl (tokenize (.strict reserved) source))
    rw [flatMap_expand_tokenize] at filtered
    exact filtered.symm
  same := by
    intro noGlued
    have sound : ∀ item ∈ tokenize (.strict reserved) source, item.isMalformed = false := by
      intro item member
      rw [← Bool.not_eq_true]
      intro malformed
      obtain ⟨number, given, glued⟩ := exists_isGluedNumber member malformed
      exact noGlued number given glued
    rw [← flatMap_expand_tokenize, flatMap_expand_sound sound]

example : (tokenize (.strict .full) "1.2.3".toList).map Item.text = ["1.2.3".toList, []] ∧
    (tokenize (.lenient .full) "1.2.3".toList).map Item.text =
      ["1.2".toList, ".".toList, "3".toList, []] := by
  decide +kernel

end Munch
