import Munch.Proofs.Spans

/-! # Leftmost-longest matching

Read leniently, the front of a text is the longest lexeme of the language that the text begins with,
and an error only if it begins with none. The reader never looks for the longest: it stops where
`Lexeme.StopsAt` holds. So the argument is that a lexeme which does not stop is part of a longer
one, and longer ones cannot go on for ever. -/
set_option autoImplicit false

namespace Munch

structure LongestLexeme (config : Config) (ahead : Text) (kind : Kind) (lexeme : Text) : Prop where
  front : lexeme <+: ahead
  lexical : Lexical config kind lexeme
  longest : ∀ otherKind other, other <+: ahead → Lexical config otherKind other →
    other.length ≤ lexeme.length
  only : ∀ otherKind, Lexical config otherKind lexeme → otherKind = kind

/-- What is wrong with a text that begins with no lexeme, and how much of it: an opening mark spoils
its line, and anything else is illegal by itself. -/
inductive Offence : Text → Fault → Text → Prop where
  | unterminated (rest : Text) :
      Offence ('"' :: rest) .unterminatedString ('"' :: rest.takeWhile (· != '\n'))
  | illegal {char : Char} (noMark : char ≠ '"') (rest : Text) :
      Offence (char :: rest) (.illegalCharacter char) [char]

def BeginsLexeme (config : Config) (ahead : Text) : Prop :=
  ∃ kind lexeme, lexeme ≠ [] ∧ lexeme <+: ahead ∧ Lexical config kind lexeme

/-- What an item is, by the text that begins where it does: the longest lexeme of that text, or an
error if no lexeme stands there. -/
structure LongestMatch (config : Config) (ahead : Text) (item : Item) : Prop where
  lexeme : BeginsLexeme config ahead → ∃ kind lexeme, LongestLexeme config ahead kind lexeme ∧
    item = .token ⟨kind, lexeme, item.start, item.start.after lexeme⟩
  error : ¬ BeginsLexeme config ahead → ∃ fault offending, Offence ahead fault offending ∧
    item = .error ⟨fault, item.start, offending⟩

/-! ## A lexeme that does not stop is part of a longer one -/

theorem Number.IsDigits.append {first second : Text} (isFirst : Number.IsDigits first)
    (isSecond : Number.IsDigits second) : Number.IsDigits (first ++ second) where
  some := by simp [isFirst.some]
  all := by
    intro char member
    rcases List.mem_append.mp member with early | late
    · exact isFirst.all char early
    · exact isSecond.all char late

theorem Number.isDigits_singleton {char : Char} (digit : isDigit char = true) :
    Number.IsDigits [char] where
  some := by simp
  all := by
    intro c member
    rw [List.mem_singleton.mp member]
    exact digit

theorem Text.exists_of_begins {test : Char → Bool} {text : Text} (begun : text.begins test = true) :
    ∃ char rest, text = char :: rest ∧ test char = true := by
  cases text with
  | nil => simp at begun
  | cons char rest => exact ⟨char, rest, rfl, begun⟩

theorem IsWord.append {word : Text} (isWord : IsWord word) {char : Char}
    (continues : isIdentifierContinue char = true) : IsWord (word ++ [char]) := by
  cases isWord with
  | intro starts inside =>
    refine .intro starts ?_
    intro c member
    rcases List.mem_append.mp member with early | last
    · exact inside c early
    · rw [List.mem_singleton.mp last]
      exact continues

theorem Lexical.exists_longer {config : Config} (lenient : config.strictNumbers = false)
    {kind : Kind} {text : Text} (lexical : Lexical config kind text) {behind : Text}
    (continued : ¬ Lexeme.StopsAt config behind ⟨.token kind, text⟩) :
    ∃ longerKind more rest, more ≠ [] ∧ behind = more ++ rest ∧
      Lexical config longerKind (text ++ more) := by
  cases lexical with
  | word isWord =>
    rw [Lexeme.stopsAt_word, Bool.not_eq_false] at continued
    obtain ⟨char, rest, rfl, continues⟩ := Text.exists_of_begins continued
    exact ⟨_, [char], rest, by simp, rfl, .word (isWord.append continues)⟩
  | integer isDigits =>
    by_cases digit : behind.begins isDigit = true
    · obtain ⟨char, rest, rfl, digit⟩ := Text.exists_of_begins digit
      exact ⟨_, [char], rest, by simp, rfl,
        .integer (isDigits.append (Number.isDigits_singleton digit))⟩
    · have starts : Number.startsFraction behind = true := by
        rw [← Bool.not_eq_false]
        intro noFraction
        rw [Bool.not_eq_true] at digit
        exact continued ⟨⟨digit, noFraction⟩, by simp [lenient]⟩
      obtain ⟨inside, rfl, next⟩ := Number.startsFraction_iff.mp starts
      obtain ⟨char, rest, rfl, next⟩ := Text.exists_of_begins next
      exact ⟨_, ['.', char], rest, by simp, rfl,
        .floating isDigits (Number.isDigits_singleton next)⟩
  | @floating digits fraction isDigits isFraction =>
    have digit : behind.begins isDigit = true := by
      rw [← Bool.not_eq_false]
      intro noDigit
      exact continued ⟨noDigit, by simp [lenient]⟩
    obtain ⟨char, rest, rfl, digit⟩ := Text.exists_of_begins digit
    have longer : Lexical config _ (digits ++ '.' :: (fraction ++ [char])) :=
      .floating isDigits (isFraction.append (Number.isDigits_singleton digit))
    rw [← List.cons_append, ← List.append_assoc] at longer
    exact ⟨_, [char], rest, by simp, rfl, longer⟩
  | string elements => exact absurd trivial continued
  | operator symbol =>
    have half : ¬ ∀ char, symbol.spelling = [char] → Lexeme.operatorPair? char behind = none :=
      continued
    obtain ⟨char, halved⟩ := Classical.not_forall.mp half
    obtain ⟨spelled, pair⟩ := Classical.not_imp.mp halved
    obtain ⟨⟨longer, next⟩, found⟩ := Option.ne_none_iff_exists'.mp pair
    obtain ⟨longerSpelled, rest, rfl⟩ := Lexeme.operatorPair?_eq_some_iff.mp found
    refine ⟨.operator longer, [next], rest, by simp, rfl, ?_⟩
    rw [spelled, List.singleton_append, ← longerSpelled]
    exact .operator longer

theorem Lexical.kind_unique {config : Config} {kind other : Kind} {text : Text}
    (lexical : Lexical config kind text) (otherLexical : Lexical config other text) :
    other = kind := by
  have first := Lexeme.atFront_lexical lexical (Lexeme.stopsAt_nil config _)
  have second := Lexeme.atFront_lexical otherLexical (Lexeme.stopsAt_nil config _)
  rw [first] at second
  simpa using second.symm

/-- The front of a text is a lexeme at least as long as any that the text begins with. -/
theorem Lexical.length_le_atFront {config : Config} (lenient : config.strictNumbers = false)
    {kind : Kind} {text : Text} (lexical : Lexical config kind text) (behind : Text) :
    ∃ longestKind lexeme, Lexeme.atFront config (text ++ behind) = ⟨.token longestKind, lexeme⟩ ∧
      Lexical config longestKind lexeme ∧ text.length ≤ lexeme.length := by
  induction size : behind.length using Nat.strongRecOn generalizing kind text behind with
  | ind size ih =>
    subst size
    -- A lexeme that does not stop is replaced by a longer one, which leaves less behind it.
    by_cases stops : Lexeme.StopsAt config behind ⟨.token kind, text⟩
    · exact ⟨kind, text, Lexeme.atFront_lexical lexical stops, lexical, Nat.le_refl _⟩
    · obtain ⟨longerKind, more, rest, some, rfl, longer⟩ := lexical.exists_longer lenient stops
      have length := List.length_pos_iff.mpr some
      have shorter : rest.length < (more ++ rest).length := by
        rw [List.length_append]
        omega
      obtain ⟨longestKind, lexeme, front, isLexical, most⟩ := ih rest.length shorter longer rest rfl
      refine ⟨longestKind, lexeme, ?_, isLexical, ?_⟩
      · rw [← List.append_assoc, front]
      · rw [List.length_append] at most
        omega

theorem Lexeme.longest_atFront {config : Config} (lenient : config.strictNumbers = false)
    {ahead : Text} (begins : BeginsLexeme config ahead) :
    ∃ kind lexeme, LongestLexeme config ahead kind lexeme ∧
      atFront config ahead = ⟨.token kind, lexeme⟩ := by
  obtain ⟨kind, lexeme, -, ⟨behind, rfl⟩, lexical⟩ := begins
  obtain ⟨longestKind, longest, same, isLongest, -⟩ := lexical.length_le_atFront lenient behind
  have front := text_atFront_isPrefix config (lexeme ++ behind)
  rw [same] at front
  refine ⟨longestKind, longest, ⟨front, isLongest, ?_, ?_⟩, same⟩
  · rintro otherKind other ⟨rest, split⟩ otherLexical
    obtain ⟨_, _, otherSame, -, most⟩ := otherLexical.length_le_atFront lenient rest
    rw [split, same] at otherSame
    cases otherSame
    exact most
  · intro otherKind otherLexical
    exact isLongest.kind_unique otherLexical

theorem Lexeme.offence_atFront {config : Config} (lenient : config.strictNumbers = false)
    {ahead : Text} (some : ahead ≠ []) (none : ¬ BeginsLexeme config ahead) :
    ∃ fault offending, Offence ahead fault offending ∧
      atFront config ahead = ⟨.error fault, offending⟩ := by
  have front := text_atFront_isPrefix config ahead
  have nonempty := text_atFront_ne_nil_of_ne_nil config some
  obtain ⟨behind, composed, formed, stops⟩ := exists_atFront config ahead
  generalize atFront config ahead = read at *
  cases formed with
  | closing => exact absurd rfl nonempty
  | token lexical => exact absurd ⟨_, _, nonempty, front, lexical⟩ none
  | malformed formed =>
    obtain ⟨isStrict, -, -, -⟩ := formed.malformed_run
    rw [lenient] at isStrict
    contradiction
  | @unterminated inside isOpen =>
    have line : (inside ++ behind).takeWhile (· != '\n') = inside := by
      refine Text.takeWhile_append_of_begins ?_ stops
      intro char member
      have different : char ≠ '\n' := by
        rintro rfl
        exact isOpen.newline_not_mem member
      simpa using different
    rw [composed]
    refine ⟨_, _, .unterminated (inside ++ behind), ?_⟩
    rw [line]
  | illegal nothing =>
    rw [composed]
    exact ⟨_, _, .illegal nothing.noString behind, rfl⟩

/-- Under lenient numbers every item before the closing one is the longest lexeme that begins where
it does, of that lexeme's kind, and it is an error only where no lexeme begins. -/
theorem longestMatch_of_mem_tokenize (config : Config) (lenient : config.strictNumbers = false)
    (source : Text) (item : Item) (member : item ∈ tokenize config source)
    (inner : item.isEnd = false) :
    ∃ ahead, source.dropBytes item.start.offset = some ahead ∧ LongestMatch config ahead item := by
  rw [tokenize_eq_itemsFrom] at member
  obtain ⟨passed, gap, lexeme, behind, rfl, step, same⟩ :=
    exists_of_mem_itemsFrom config .start source member inner
  have start : item.start = Position.start.after (passed ++ gap) := by
    rw [same, Lexeme.start_between]
  have ahead : lexeme.text ++ behind ≠ [] := by simp [step.some]
  refine ⟨lexeme.text ++ behind, ?_, ?_, ?_⟩
  · rw [start, Position.offset_start_after, ← List.append_assoc, Text.dropBytes_append]
  · intro begins
    obtain ⟨kind, longest, isLongest, front⟩ := Lexeme.longest_atFront lenient begins
    rw [step.front] at front
    subst front
    exact ⟨kind, longest, isLongest, by rw [start]; exact same⟩
  · intro none
    obtain ⟨fault, offending, offence, front⟩ := Lexeme.offence_atFront lenient ahead none
    rw [step.front] at front
    subst front
    exact ⟨fault, offending, offence, by rw [start]; exact same⟩

/-- In `<=3.14.x` the number behind the operator is the longest there is: the second dot begins no
further fraction. -/
theorem longestMatch_fraction :
    Config.default.strictNumbers = false ∧
      Item.token ⟨.floating "3.14".toList, "3.14".toList, ⟨2, 1, 3⟩, ⟨6, 1, 7⟩⟩ ∈
        tokenize .default "<=3.14.x".toList ∧
      (∃ ahead, Text.dropBytes 2 "<=3.14.x".toList = some ahead ∧ LongestMatch .default ahead
        (.token ⟨.floating "3.14".toList, "3.14".toList, ⟨2, 1, 3⟩, ⟨6, 1, 7⟩⟩)) :=
  have member : Item.token ⟨.floating "3.14".toList, "3.14".toList, ⟨2, 1, 3⟩, ⟨6, 1, 7⟩⟩ ∈
      tokenize .default "<=3.14.x".toList := by decide +kernel
  ⟨rfl, member, longestMatch_of_mem_tokenize .default rfl "<=3.14.x".toList _ member rfl⟩

end Munch
