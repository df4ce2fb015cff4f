import Mathlib.Data.List.Forall2
import Munch.Proofs.LongestMatch
import Munch.Proofs.Positions
import Munch.Proofs.Termination
import Munch.Proofs.WordTables

/-! # What reserved words change

Which words are reserved decides the kinds of words and nothing else. Two streams of one source under
two tables go in step: one call leaves them at the same place with the same books, and what it gives
differs at most in the kind of a word. So no table moves the end of an item, and none can make a word
the token that closes a stream. -/
set_option autoImplicit false

namespace Munch

variable {config other : Config}

theorem Config.kindOf_eq (config : Config) (word : Text) :
    config.kindOf word = ((config.lookup word).map ReservedWord.kind).getD .identifier := by
  unfold kindOf
  cases config.lookup word <;> rfl

/-! ## The front of a text under two tables -/

inductive Lexeme.Relabelled (config other : Config) : Lexeme → Lexeme → Prop where
  | word {word : Text} (isWord : IsWord word) :
      Relabelled config other ⟨.token (config.kindOf word), word⟩ ⟨.token (other.kindOf word), word⟩
  | same {lexeme : Lexeme} (noWord : ¬ IsWord lexeme.text) : Relabelled config other lexeme lexeme

theorem Lexeme.Relabelled.text_eq {first second : Lexeme}
    (relabelled : Relabelled config other first second) : first.text = second.text := by
  cases relabelled <;> rfl

theorem isWord_takeWhile {first : Char} (starts : isIdentifierStart first = true) (rest : Text) :
    IsWord ((first :: rest).takeWhile isIdentifierContinue) := by
  rw [List.takeWhile_cons_of_pos (isIdentifierContinue_of_isIdentifierStart starts)]
  exact .intro starts (List.all_eq_true.mp List.all_takeWhile)

/-- What is read behind a character that begins no word is no word. -/
theorem not_isWord_atFront {char : Char} (noLetter : classify char ≠ .letter) (rest : Text) :
    ¬ IsWord (Lexeme.atFront config (char :: rest)).text := by
  have front := Lexeme.text_atFront_isPrefix config (char :: rest)
  intro isWord
  cases shape : (Lexeme.atFront config (char :: rest)).text with
  | nil =>
    rw [shape] at isWord
    cases isWord
  | cons first inside =>
    rw [shape] at isWord front
    obtain ⟨rfl, -⟩ := List.cons_prefix_cons.mp front
    cases isWord with
    | intro starts _ => exact noLetter (classify_of_isIdentifierStart starts)

/-- Only words are looked up, so a table changes at most the kind of the lexeme at the front. -/
theorem Lexeme.relabelled_atFront (same : config.strictNumbers = other.strictNumbers)
    (text : Text) : Relabelled config other (atFront config text) (atFront other text) := by
  cases text with
  | nil => exact .same nofun
  | cons char rest =>
    by_cases letter : classify char = .letter
    · have starts := isIdentifierStart_of_classify letter
      simp only [atFront, letter]
      exact .word (isWord_takeWhile starts rest)
    · have front : atFront other (char :: rest) = atFront config (char :: rest) := by
        simp only [atFront]
        cases shape : classify char with
        | letter => exact absurd shape letter
        | digit => simp only [ofNumber, same]
        | quote | operator | whitespace | other => rfl
      rw [front]
      exact .same (not_isWord_atFront letter rest)

/-! ## Streams that go in step -/

/-- Whether two items are the same, or the same word at the same place under the kinds that two
tables look up for it. -/
inductive Item.Relabelled (config other : Config) : Item → Item → Prop where
  | word {lexeme : Text} (isWord : IsWord lexeme) (start stop : Position) :
      Relabelled config other
        (.token ⟨((config.lookup lexeme).map ReservedWord.kind).getD .identifier, lexeme, start,
          stop⟩)
        (.token ⟨((other.lookup lexeme).map ReservedWord.kind).getD .identifier, lexeme, start,
          stop⟩)
  | token {token : Token} (noWord : ¬ IsWord token.lexeme) :
      Relabelled config other (.token token) (.token token)
  | error (error : LexError) : Relabelled config other (.error error) (.error error)

theorem Lexeme.Relabelled.between {first second : Lexeme}
    (relabelled : Relabelled config other first second) (start stop : Position) :
    Item.Relabelled config other (first.between start stop) (second.between start stop) := by
  cases relabelled with
  | word isWord =>
    simp only [Lexeme.between, Config.kindOf_eq]
    exact .word isWord start stop
  | same noWord =>
    unfold Lexeme.between
    cases first.verdict with
    | token kind => exact .token noWord
    | error fault => exact .error _

/-- No table makes a word the token that closes a stream. -/
theorem Config.isEnd_word (config : Config) (word : Text) (start stop : Position) : Token.isEnd
    ⟨((config.lookup word).map ReservedWord.kind).getD .identifier, word, start, stop⟩ = false := by
  rw [← config.kindOf_eq]
  rcases config.kindOf_cases word with same | ⟨_, same⟩ | ⟨_, same⟩ <;> simp [Token.isEnd, same]

theorem Cursor.relabelled_itemHere (same : config.strictNumbers = other.strictNumbers)
    (cursor : Cursor) :
    Item.Relabelled config other (cursor.itemHere config).1 (cursor.itemHere other).1 ∧
      (cursor.itemHere config).2 = (cursor.itemHere other).2 := by
  have front := Lexeme.relabelled_atFront same cursor.rest
  simp only [itemHere, front.text_eq, and_true]
  exact front.between _ _

theorem Cursor.relabelled_nextItem (same : config.strictNumbers = other.strictNumbers)
    (cursor : Cursor) :
    Item.Relabelled config other (cursor.nextItem config).1 (cursor.nextItem other).1 ∧
      (cursor.nextItem config).2 = (cursor.nextItem other).2 := by
  unfold nextItem
  split
  · exact relabelled_itemHere same cursor.skipTrivia
  · exact relabelled_itemHere same cursor

namespace Stream

def under (stream : Stream) (other : Config) : Stream := { stream with config := other }

theorem give_under {stream : Stream} {first second : Item}
    (relabelled : Item.Relabelled config other first second) (behind : Cursor) :
    (stream.under other).give second behind = (stream.give first behind).under other := by
  cases relabelled with
  | word isWord start stop =>
    simp only [give, Config.isEnd_word, Bool.false_eq_true, if_false]
    rfl
  | @token token noWord =>
    cases closes : token.isEnd <;> simp only [give, closes] <;> rfl
  | error error => rfl

/-- One call on a stream under another table gives the same item up to relabelling, and leaves the
same stream behind. -/
theorem next_under (stream : Stream) (same : stream.config.strictNumbers = other.strictNumbers) :
    Option.Rel (Item.Relabelled stream.config other) stream.next.1 (stream.under other).next.1 ∧
      (stream.under other).next.2 = stream.next.2.under other := by
  cases finished : stream.finished with
  | true =>
    have still : (stream.under other).next = (none, stream.under other) := next_finished finished
    rw [still, next_finished finished]
    exact ⟨.none, rfl⟩
  | false =>
    obtain ⟨item, behind⟩ := Cursor.relabelled_nextItem same stream.cursor.skipTrivia
    have going : (stream.under other).finished = false := finished
    simp only [next, finished, going, Bool.false_eq_true, if_false]
    refine ⟨.some item, ?_⟩
    rw [behind]
    exact give_under item _

theorem config_next (stream : Stream) : stream.next.2.config = stream.config := by
  unfold next
  split
  · rfl
  · exact config_give ..

theorem config_after (stream : Stream) (calls : Nat) :
    (stream.after calls).config = stream.config := by
  induction calls with
  | zero => rfl
  | succ calls ih => rw [after, config_next, ih]

/-- Calls on a stream under another table leave the same stream behind. -/
theorem after_under (stream : Stream) (same : stream.config.strictNumbers = other.strictNumbers)
    (calls : Nat) : (stream.under other).after calls = (stream.after calls).under other := by
  induction calls with
  | zero => rfl
  | succ calls ih =>
    have still : (stream.after calls).config.strictNumbers = other.strictNumbers := by
      rw [config_after, same]
    rw [after, after, ih, (next_under _ still).2]

/-- What a stream still has is the same up to relabelling. -/
theorem relabelled_items (stream : Stream)
    (same : stream.config.strictNumbers = other.strictNumbers) :
    List.Forall₂ (Item.Relabelled stream.config other) stream.items
      (stream.under other).items := by
  -- A call on either stream takes the first of its items, and the streams stay in step.
  induction ahead : stream.items generalizing stream with
  | nil =>
    have finished : stream.finished = true := items_eq_nil_iff.mp ahead
    have others : (stream.under other).items = [] := items_eq_nil_iff.mpr finished
    rw [others]
    exact .nil
  | cons item rest ih =>
    obtain ⟨given, step⟩ := next_under stream same
    have still : stream.next.2.config.strictNumbers = other.strictNumbers := by
      rw [config_next, same]
    have behind : stream.next.2.items = rest := by
      rw [items_snd_next, ahead, List.tail_cons]
    have later := ih stream.next.2 still behind
    rw [config_next, ← step, items_snd_next] at later
    rw [fst_next, fst_next, ahead, List.head?_cons] at given
    cases others : (stream.under other).items with
    | nil =>
      rw [others] at given
      cases given
    | cons otherItem otherRest =>
      rw [others] at given later
      cases given with
      | some relabelled => exact .cons relabelled later

end Stream

/-! ## Passes under two tables -/

/-- Whether a source is cut the same way under two configurations: the streams differ at no point of
the pass, and the items only in the kinds of words. -/
structure CutAlike (config other : Config) (source : Text) : Prop where
  streams : ∀ calls, (Stream.ofText other source).after calls =
    ((Stream.ofText config source).after calls).under other
  items : List.Forall₂ (Item.Relabelled config other) (tokenize config source)
    (tokenize other source)

/-- Under configurations that read numbers alike, every source is cut the same way. -/
theorem cutAlike_of_strictNumbers_eq (config other : Config)
    (same : config.strictNumbers = other.strictNumbers) (source : Text) :
    CutAlike config other source where
  streams := Stream.after_under (.ofText config source) same
  items := by
    rw [← items_ofText, ← items_ofText]
    exact Stream.relabelled_items (.ofText config source) same

/-- Without the truth values `true` is an identifier, and nothing else of `true:"a` changes. -/
theorem cutAlike_of_strictNumbers_eq_release :
    Config.default.strictNumbers = (Config.build [.booleans false]).strictNumbers ∧
    CutAlike .default (.build [.booleans false]) ['t', 'r', 'u', 'e', ':', '"', 'a'] :=
  ⟨rfl, cutAlike_of_strictNumbers_eq .default (.build [.booleans false]) rfl _⟩

/-! ## Tokens and the table -/

def Kind.IsLabel (kind : Kind) : Prop :=
  kind = .identifier ∨ (∃ word, kind = .keyword word) ∨ ∃ value, kind = .boolean value

theorem Lexical.isWord {kind : Kind} {text : Text} (lexical : Lexical config kind text)
    (label : kind.IsLabel) : IsWord text := by
  cases lexical with
  | word isWord => exact isWord
  | _ => rcases label with same | ⟨_, same⟩ | ⟨_, same⟩ <;> cases same

theorem isWord_of_isLabel {source : Text} {token : Token}
    (member : .token token ∈ tokenize config source) (label : token.kind.IsLabel) :
    IsWord token.lexeme := by
  have inner : token.isEnd = false := by
    rcases label with same | ⟨_, same⟩ | ⟨_, same⟩ <;> simp [Token.isEnd, same]
  exact (lexical_of_mem_tokenize member inner).isWord label

theorem isEnd_of_isWord {source : Text} {token : Token}
    (member : .token token ∈ tokenize config source) (isWord : IsWord token.lexeme) :
    token.isEnd = false := by
  rw [← Bool.not_eq_true]
  intro closes
  cases eq_closing_of_isEnd config source member closes
  cases isWord

theorem kind_of_isWord {source : Text} {token : Token}
    (member : .token token ∈ tokenize config source) (isWord : IsWord token.lexeme) :
    token.kind = ((config.lookup token.lexeme).map ReservedWord.kind).getD .identifier := by
  have lexical := lexical_of_mem_tokenize member (isEnd_of_isWord member isWord)
  rw [← config.kindOf_eq]
  exact (Lexical.word isWord).kind_unique lexical

/-- A kind that a table gives to a word, other than that of an identifier, stands in the entry of the
word. -/
theorem spells_of_isLabel {source : Text} {token : Token}
    (member : .token token ∈ tokenize config source) (label : token.kind.IsLabel)
    (reserved : token.kind ≠ .identifier) : WordTable.Spells token.lexeme token.kind := by
  have entry : token.kind = (config.reserved.table token.lexeme).getD .identifier :=
    kind_of_isWord member (isWord_of_isLabel member label)
  cases entered : config.reserved.table token.lexeme with
  | none =>
    rw [entered] at entry
    exact absurd entry reserved
  | some kind =>
    rw [entered] at entry
    rw [entry]
    exact config.reserved.sound_table _ _ entered

/-- Whether a configuration looks up a sound table, and the tokens of a source say what stands in it:
words are labelled by their entries, and no entry closes the stream. -/
structure SoundWords (config : Config) (table : WordTable) (source : Text) : Prop where
  lookup : ∀ word, (config.lookup word).map ReservedWord.kind = table word
  sound : table.Sound
  words : ∀ token, .token token ∈ tokenize config source → IsWord token.lexeme →
    token.kind = (table token.lexeme).getD .identifier
  keyword : ∀ token word, .token token ∈ tokenize config source → token.kind = .keyword word →
    token.lexeme = word.spelling
  boolean : ∀ token value, .token token ∈ tokenize config source → token.kind = .boolean value →
    token.lexeme = Kind.truthWord value
  identifier : ∀ token, .token token ∈ tokenize config source → token.kind = .identifier →
    table token.lexeme = none
  closing : ∀ token, .token token ∈ tokenize config source → token.kind = .endOfInput →
    ¬ IsWord token.lexeme ∧ .token token = Item.closing (Position.start.after source)

/-- However a configuration was obtained, with any reader of settings, it looks up the table that was
written on the way; the table is sound, and so are the words of every source. -/
theorem soundWords_of_obtained {read : Settings.Reader} {config : Config} {table : WordTable}
    (obtained : config.Obtained read table) (source : Text) : SoundWords config table source := by
  have lookup : ∀ word, (config.lookup word).map ReservedWord.kind = table word :=
    congrFun obtained.table_eq
  have sound : table.Sound := by
    rw [← obtained.table_eq]
    exact config.reserved.sound_table
  have words : ∀ token, .token token ∈ tokenize config source → IsWord token.lexeme →
      token.kind = (table token.lexeme).getD .identifier := by
    intro token member isWord
    rw [kind_of_isWord member isWord, lookup]
  refine ⟨lookup, sound, words, ?keyword, ?boolean, ?identifier, ?closing⟩
  case keyword =>
    intro token word member same
    have spelled := spells_of_isLabel member (Or.inr (Or.inl ⟨word, same⟩)) (by simp [same])
    rw [same] at spelled
    exact spelled.eq_spelling
  case boolean =>
    intro token value member same
    have spelled := spells_of_isLabel member (Or.inr (Or.inr ⟨value, same⟩)) (by simp [same])
    rw [same] at spelled
    exact spelled.eq_truthWord
  case identifier =>
    intro token member same
    have entry := words token member (isWord_of_isLabel member (Or.inl same))
    cases entered : table token.lexeme with
    | none => rfl
    | some kind =>
      rw [entered, same] at entry
      exact absurd entry.symm (sound _ _ entered).ne_identifier
  case closing =>
    intro token member same
    have closes : token.isEnd = true := by simp [Token.isEnd, same]
    refine ⟨?_, eq_closing_of_isEnd config source member closes⟩
    intro isWord
    rw [isEnd_of_isWord member isWord] at closes
    contradiction

/-- A file that reserves two words: `let` and `true` are labelled, and `if` is an identifier. -/
theorem soundWords_of_obtained_listed :
    Config.Obtained Settings.read
      ⟨(WordSet.empty.insert (.keyword .kwLet)).insert (.boolean true), true⟩
      (.ofText Settings.read "[[\"let\",\"true\"],true]".toList) ∧
    SoundWords ⟨(WordSet.empty.insert (.keyword .kwLet)).insert (.boolean true), true⟩
      (.ofText Settings.read "[[\"let\",\"true\"],true]".toList) "let if true".toList :=
  have loads : (Config.load Settings.read "[[\"let\",\"true\"],true]".toList).toOption =
      some ⟨(WordSet.empty.insert (.keyword .kwLet)).insert (.boolean true), true⟩ := by
    decide +kernel
  have accepted : Config.load Settings.read "[[\"let\",\"true\"],true]".toList =
      .ok ⟨(WordSet.empty.insert (.keyword .kwLet)).insert (.boolean true), true⟩ := by
    cases made : Config.load Settings.read "[[\"let\",\"true\"],true]".toList with
    | error failure =>
      rw [made] at loads
      contradiction
    | ok config =>
      rw [made] at loads
      exact congrArg Except.ok (Option.some.inj loads)
  ⟨.loaded accepted, soundWords_of_obtained (.loaded accepted) _⟩

end Munch
