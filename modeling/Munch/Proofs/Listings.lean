import Munch.Proofs.PlaceOrder
import Munch.Proofs.Relabelling
import Munch.Proofs.Tasks

/-! # Listings lose nothing

A line of a listing has three fields between tabs: the place of a token, the name of its kind, and
its lexeme in quotation marks. Since all fields can be printed, no lexeme brings a tab or a line feed
into a listing, and lines and fields can be cut apart again. The content of a literal is not listed,
but it need not be: kinds of one name that one lexeme can have are the same, under all
configurations. So a listing tells everything of its tokens but how many bytes stand before them. -/
set_option autoImplicit false

namespace Munch

namespace Token

/-! ## One line -/

def told (token : Token) : Nat × Nat × Text × Text :=
  (token.start.line, token.start.column, token.kind.name, token.lexeme)

theorem line_eq (token : Token) : token.line =
    token.start.display ++ '\t' :: (token.kind.name ++ '\t' :: token.lexeme.quoted) := by
  rw [line, List.append_assoc]
  rfl

theorem tab_not_mem_fields (token : Token) : '\t' ∉ token.start.display ∧
    '\t' ∉ token.kind.name ∧ '\t' ∉ token.lexeme.quoted := by
  have tab : isUnprintable '\t' = true := by decide
  refine ⟨?_, ?_, ?_⟩
  · exact token.start.printable_display.not_mem tab
  · exact token.kind.printable_name.not_mem tab
  · exact (Text.printable_quoted token.lexeme).not_mem tab

theorem split_line (token : Token) : token.line.split '\t' =
    [token.start.display, token.kind.name, token.lexeme.quoted] := by
  obtain ⟨place, name, lexeme⟩ := token.tab_not_mem_fields
  rw [line_eq, Text.split_append place, Text.split_append name, Text.split_of_not_mem lexeme]

theorem count_line (token : Token) : token.line.count '\t' = 2 := by
  obtain ⟨place, name, lexeme⟩ := token.tab_not_mem_fields
  rw [line_eq, List.count_append, List.count_cons_self, List.count_append, List.count_cons_self,
    List.count_eq_zero_of_not_mem place, List.count_eq_zero_of_not_mem name,
    List.count_eq_zero_of_not_mem lexeme]

theorem line_eq_iff {first second : Token} : first.line = second.line ↔ first.told = second.told := by
  rw [told, told, Prod.mk.injEq, Prod.mk.injEq, Prod.mk.injEq]
  constructor
  · intro same
    have fields := congrArg (Text.split '\t') same
    rw [split_line, split_line, List.cons.injEq, List.cons.injEq, List.cons.injEq] at fields
    obtain ⟨place, name, lexeme, -⟩ := fields
    obtain ⟨line, column⟩ := Position.display_eq_iff.mp place
    exact ⟨line, column, name, Text.quoted_inj.mp lexeme⟩
  · rintro ⟨line, column, name, lexeme⟩
    have place := Position.display_eq_iff.mpr ⟨line, column⟩
    rw [line_eq, line_eq, place, name, lexeme]

end Token

/-! ## Lines of a listing -/

/-- Every line of a listing is closed, so nothing stands behind the last. -/
theorem split_lineListing (tokens : List Token) :
    (lineListing tokens).split '\n' = tokens.map Token.line ++ [[]] := by
  induction tokens with
  | nil => rfl
  | cons token rest ih =>
    have front : lineListing (token :: rest) = token.line ++ '\n' :: lineListing rest := by
      rw [lineListing, List.flatMap_cons, List.append_assoc]
      rfl
    rw [front, Text.split_append token.newline_not_mem_line, ih]
    rfl

theorem lineListing_eq_iff {tokens others : List Token} :
    lineListing tokens = lineListing others ↔ tokens.map Token.told = others.map Token.told := by
  have alike : tokens.map Token.line = others.map Token.line ↔
      tokens.map Token.told = others.map Token.told :=
    map_eq_map_iff fun _ _ _ _ => Token.line_eq_iff
  rw [← alike]
  constructor
  · intro same
    have lines := congrArg (Text.split '\n') same
    rw [split_lineListing, split_lineListing] at lines
    exact List.append_cancel_right lines
  · intro same
    have joined : ∀ list : List Token,
        lineListing list = (list.map Token.line).flatMap fun line => line ++ ['\n'] := by
      intro list
      rw [lineListing, List.flatMap_map]
    rw [joined, joined, same]

/-! ## Kinds by name and lexeme -/

/-- A kind that a word can be entered under has not the name of an identifier. -/
theorem WordTable.Spells.name_ne {text : Text} {kind : Kind} (spelled : WordTable.Spells text kind) :
    kind.name ≠ Kind.identifier.name := by
  cases spelled with
  | keyword word => cases word <;> decide +kernel
  | boolean value =>
    exact (by decide +kernel : "BooleanLiteral".toList ≠ "Identifier".toList)

/-- What is no word is a lexeme of the same kind under all configurations. -/
theorem Lexical.under {config : Config} {kind : Kind} {text : Text}
    (lexical : Lexical config kind text) (noWord : ¬ IsWord text) (other : Config) :
    Lexical other kind text := by
  cases lexical with
  | word isWord => exact absurd isWord noWord
  | integer isDigits => exact .integer isDigits
  | floating isDigits isFraction => exact .floating isDigits isFraction
  | string elements => exact .string elements
  | operator symbol => exact .operator symbol

section Tokens

variable {config other : Config} {source otherSource : Text} {token otherToken : Token}

theorem identifier_or_spells (member : .token token ∈ tokenize config source)
    (isWord : IsWord token.lexeme) :
    token.kind = .identifier ∨ WordTable.Spells token.lexeme token.kind := by
  have entry : token.kind = (config.reserved.table token.lexeme).getD .identifier :=
    kind_of_isWord member isWord
  cases entered : config.reserved.table token.lexeme with
  | none =>
    rw [entered] at entry
    exact Or.inl entry
  | some kind =>
    rw [entered, Option.getD_some] at entry
    rw [entry]
    exact Or.inr (config.reserved.sound_table _ _ entered)

/-- The end of a source is the one token without a lexeme. -/
theorem lexeme_eq_nil_iff (member : .token token ∈ tokenize config source) :
    token.lexeme = [] ↔ token.kind = .endOfInput := by
  have located := member
  rw [tokenize_eq_itemsFrom] at located
  obtain ⟨_, _, _, _, inner, closing⟩ := exists_location config .start source located
  have ends : (Item.token token).isEnd = true ↔ token.kind = .endOfInput := decide_eq_true_iff
  constructor
  · intro none
    rw [← ends, ← Bool.not_eq_false]
    intro notEnd
    exact inner notEnd none
  · intro same
    exact (closing (ends.mpr same)).1

/-- The kind of a token, with its content, can be told from its name and the lexeme. -/
theorem kind_eq_of_name (member : .token token ∈ tokenize config source)
    (otherMember : .token otherToken ∈ tokenize other otherSource)
    (names : token.kind.name = otherToken.kind.name) (lexemes : token.lexeme = otherToken.lexeme) :
    token.kind = otherToken.kind := by
  by_cases isWord : IsWord token.lexeme
  · have otherWord := isWord
    rw [lexemes] at otherWord
    -- The name tells whether a word is reserved, and the lexeme tells as what.
    rcases identifier_or_spells member isWord with plain | spelled <;>
      rcases identifier_or_spells otherMember otherWord with otherPlain | otherSpelled
    · rw [plain, otherPlain]
    · rw [plain] at names
      exact absurd names.symm otherSpelled.name_ne
    · rw [otherPlain] at names
      exact absurd names spelled.name_ne
    · rw [lexemes] at spelled
      exact spelled.unique otherSpelled
  · by_cases none : token.lexeme = []
    · have otherNone := none
      rw [lexemes] at otherNone
      rw [(lexeme_eq_nil_iff member).mp none, (lexeme_eq_nil_iff otherMember).mp otherNone]
    · have otherSome := none
      rw [lexemes] at otherSome
      have inner : token.isEnd = false :=
        decide_eq_false fun closes => none ((lexeme_eq_nil_iff member).mpr closes)
      have otherInner : otherToken.isEnd = false :=
        decide_eq_false fun closes => otherSome ((lexeme_eq_nil_iff otherMember).mpr closes)
      have lexical := (lexical_of_mem_tokenize member inner).under isWord other
      rw [lexemes] at lexical
      exact (lexical_of_mem_tokenize otherMember otherInner).kind_unique lexical

/-! ## What a listing tells -/

/-- A token ends in its line, as many columns behind its start as its lexeme has characters. -/
theorem stop_of_mem (member : .token token ∈ tokenize config source) :
    token.stop.line = token.start.line ∧
      token.stop.column = token.start.column + token.lexeme.length := by
  obtain ⟨before, behind, -, start, stop⟩ := exists_token_location config source member
  have inLine : '\n' ∉ token.lexeme := newline_not_mem_text config source member
  rw [stop, start, Position.after_append]
  exact Position.after_of_not_mem inLine _

end Tokens

def Position.withoutBytes (place : Position) : Position := { place with offset := 0 }

def Token.withoutBytes (token : Token) : Token :=
  { token with start := token.start.withoutBytes, stop := token.stop.withoutBytes }

theorem Position.withoutBytes_eq_iff {first second : Position} :
    first.withoutBytes = second.withoutBytes ↔
      first.line = second.line ∧ first.column = second.column := by
  simp [withoutBytes]

theorem told_eq_iff {config other : Config} {source otherSource : Text} {token otherToken : Token}
    (member : .token token ∈ tokenize config source)
    (otherMember : .token otherToken ∈ tokenize other otherSource) :
    token.told = otherToken.told ↔ token.withoutBytes = otherToken.withoutBytes := by
  obtain ⟨line, column⟩ := stop_of_mem member
  obtain ⟨otherLine, otherColumn⟩ := stop_of_mem otherMember
  rw [Token.told, Token.told, Prod.mk.injEq, Prod.mk.injEq, Prod.mk.injEq, Token.withoutBytes,
    Token.withoutBytes, Token.mk.injEq, Position.withoutBytes_eq_iff, Position.withoutBytes_eq_iff]
  constructor
  · rintro ⟨startLine, startColumn, names, lexemes⟩
    have kinds := kind_eq_of_name member otherMember names lexemes
    refine ⟨kinds, lexemes, ⟨startLine, startColumn⟩, ?_, ?_⟩
    · rw [line, otherLine, startLine]
    · rw [column, otherColumn, startColumn, lexemes]
  · rintro ⟨kinds, lexemes, ⟨startLine, startColumn⟩, -⟩
    exact ⟨startLine, startColumn, congrArg Kind.name kinds, lexemes⟩

theorem mem_tokens_lex {config : Config} {source : Text} {token : Token} :
    token ∈ (lex config source).tokens ↔ .token token ∈ tokenize config source := by
  rw [tokens_lex, List.mem_filterMap]
  constructor
  · rintro ⟨item, member, found⟩
    cases item with
    | token same =>
      cases found
      exact member
    | error error => cases found
  · intro member
    exact ⟨.token token, member, rfl⟩

/-- Whether the listing of a source tells its tokens: it has a line for each, of three fields, and
lines, kinds and listings can be told from those of every other source under every configuration. -/
structure ListingTells (config : Config) (source : Text) : Prop where
  lines : (lineListing (lex config source).tokens).split '\n' =
    (lex config source).tokens.map Token.line ++ [[]]
  fields : ∀ token ∈ (lex config source).tokens, '\n' ∉ token.line ∧ token.line.count '\t' = 2 ∧
    token.line.split '\t' = [token.start.display, token.kind.name, token.lexeme.quoted]
  line : ∀ token ∈ (lex config source).tokens, ∀ other : Token, token.line = other.line ↔
    token.start.line = other.start.line ∧ token.start.column = other.start.column ∧
      token.kind.name = other.kind.name ∧ token.lexeme = other.lexeme
  kind : ∀ other otherSource, ∀ token ∈ (lex config source).tokens,
    ∀ otherToken ∈ (lex other otherSource).tokens, token.kind.name = otherToken.kind.name →
      token.lexeme = otherToken.lexeme → token.kind = otherToken.kind
  listing : ∀ other otherSource,
    lineListing (lex config source).tokens = lineListing (lex other otherSource).tokens ↔
      (lex config source).tokens.map Token.withoutBytes =
        (lex other otherSource).tokens.map Token.withoutBytes

/-- Under every configuration the listing of every source tells its tokens. -/
theorem listingTells_lex (config : Config) (source : Text) : ListingTells config source where
  lines := split_lineListing _
  fields := by
    intro token _
    exact ⟨token.newline_not_mem_line, token.count_line, token.split_line⟩
  line := by
    intro token _ other
    rw [Token.line_eq_iff, Token.told, Token.told, Prod.mk.injEq, Prod.mk.injEq, Prod.mk.injEq]
  kind := by
    intro other otherSource token member otherToken otherMember
    exact kind_eq_of_name (mem_tokens_lex.mp member) (mem_tokens_lex.mp otherMember)
  listing := by
    intro other otherSource
    rw [lineListing_eq_iff]
    apply map_eq_map_iff
    intro token member otherToken otherMember
    exact told_eq_iff (mem_tokens_lex.mp member) (mem_tokens_lex.mp otherMember)

end Munch
