import Munch.Proofs.ClosingMarks
import Munch.Proofs.Spans

/-! # What strings stand for

The body of a string is cut from the left: a backslash takes the character behind it along, and
every other character stands by itself. Four escapes stand for another character, and all others for
themselves, with their backslash. So two bodies may stand for the same content, but every content
has a literal: `literal` writes a backslash before the marks and backslashes of the content and
names its line feeds and tabs, and what is read from that is the content again, whatever follows it.
-/
set_option autoImplicit false

namespace Munch

namespace StringLiteral

inductive Escape : Char → Text → Prop where
  | lineFeed : Escape 'n' ['\n']
  | tab : Escape 't' ['\t']
  | mark : Escape '"' ['"']
  | backslash : Escape '\\' ['\\']
  | kept {char : Char} (other : char ∉ ['n', 't', '"', '\\']) : Escape char ['\\', char]

/-- What a body stands for, if it is cut from the left into escapes and single characters. -/
inductive Decodes : Text → Text → Prop where
  | nil : Decodes [] []
  | plain {char : Char} {rest content : Text} (noBackslash : char ≠ '\\')
      (tail : Decodes rest content) : Decodes (char :: rest) (char :: content)
  | escape {char : Char} {decoded rest content : Text} (stands : Escape char decoded)
      (tail : Decodes rest content) : Decodes ('\\' :: char :: rest) (decoded ++ content)

/-- Whether a lexeme is a body between marks, and the body stands for a content and nothing else. -/
def Denotes (lexeme content : Text) : Prop :=
  ∃ body : Text, lexeme = '"' :: (body ++ ['"']) ∧ ∀ other, Decodes body other ↔ other = content

def escaped : Char → Text
  | '\\' => ['\\', '\\']
  | '"' => ['\\', '"']
  | '\n' => ['\\', 'n']
  | '\t' => ['\\', 't']
  | char => [char]

def literal (content : Text) : Text := '"' :: (content.flatMap escaped ++ ['"'])

/-! ## Bodies stand for one content -/

theorem escape_unescape (char : Char) : Escape char (unescape char) := by
  unfold unescape
  split
  · exact .lineFeed
  · exact .tab
  · exact .mark
  · exact .backslash
  · rename_i noFeed noTab noMark noBackslash
    apply Escape.kept
    simp only [List.mem_cons, List.not_mem_nil, or_false, not_or]
    exact ⟨noFeed, noTab, noMark, noBackslash⟩

theorem Escape.unique {char : Char} {first second : Text} (one : Escape char first)
    (other : Escape char second) : first = second := by
  cases one with
  | kept outside =>
    cases other with
    | kept _ => rfl
    | _ => simp at outside
  | _ =>
    cases other with
    | kept outside => simp at outside
    | _ => rfl

theorem Decodes.unique {body first second : Text} (one : Decodes body first)
    (other : Decodes body second) : first = second := by
  induction one generalizing second with
  | nil =>
    cases other with
    | nil => rfl
  | plain noBackslash _ ih =>
    cases other with
    | plain _ tail => rw [ih tail]
    | escape _ _ => exact absurd rfl noBackslash
  | escape stands _ ih =>
    cases other with
    | plain noBackslash _ => exact absurd rfl noBackslash
    | escape again tail => rw [stands.unique again, ih tail]

theorem decodes_written (elements : List Element) :
    Decodes (written elements) (contents elements) := by
  induction elements with
  | nil => exact .nil
  | cons element rest ih =>
    cases element with
    | plain char free => exact .plain free.2.1 ih
    | escape char inLine => exact .escape (escape_unescape char) ih

theorem denotes_written (elements : List Element) :
    Denotes ('"' :: (written elements ++ ['"'])) (contents elements) := by
  refine ⟨written elements, rfl, ?_⟩
  intro other
  constructor
  · intro decodes
    exact decodes.unique (decodes_written elements)
  · intro same
    subst same
    exact decodes_written elements

/-! ## Every content has a literal -/

theorem exists_element (char : Char) :
    ∃ element : Element, element.text = escaped char ∧ element.content = [char] := by
  unfold escaped
  split
  · exact ⟨.escape '\\' (by decide), rfl, rfl⟩
  · exact ⟨.escape '"' (by decide), rfl, rfl⟩
  · exact ⟨.escape 'n' (by decide), rfl, rfl⟩
  · exact ⟨.escape 't' (by decide), rfl, rfl⟩
  · rename_i noBackslash noMark noFeed _
    exact ⟨.plain char ⟨noMark, noBackslash, noFeed⟩, rfl, rfl⟩

theorem exists_elements (content : Text) : ∃ elements : List Element,
    written elements = content.flatMap escaped ∧ contents elements = content := by
  induction content with
  | nil => exact ⟨[], rfl, rfl⟩
  | cons char rest ih =>
    obtain ⟨element, text, stands⟩ := exists_element char
    obtain ⟨elements, texts, stand⟩ := ih
    refine ⟨element :: elements, ?_, ?_⟩
    · rw [written_cons, text, texts, List.flatMap_cons]
    · rw [contents, List.flatMap_cons, stands, ← contents, stand, List.singleton_append]

/-- Behind the opening mark of a literal, its content is read and what follows the literal is left.
-/
theorem ofString_literal (content behind : Text) :
    Lexeme.ofString (content.flatMap escaped ++ '"' :: behind) =
      ⟨.token (.string content), literal content⟩ := by
  obtain ⟨elements, texts, stand⟩ := exists_elements content
  rw [literal, ← texts, Lexeme.ofString, read_closed]
  simp only [decode_written, stand, Reading.text, List.cons_append]

end StringLiteral

open StringLiteral

theorem Lexical.denotes {config : Config} {kind : Kind} {text content : Text}
    (lexical : Lexical config kind text) (isString : kind = .string content) :
    Denotes text content := by
  cases lexical with
  | string elements =>
    cases isString
    exact denotes_written elements
  | word _ =>
    rcases config.kindOf_cases text with same | ⟨_, same⟩ | ⟨_, same⟩ <;> simp [same] at isString
  | integer _ => contradiction
  | floating _ _ => contradiction
  | operator _ => contradiction

theorem Cursor.lexical_of_itemHere {config : Config} {cursor : Cursor} {token : Token}
    (given : (cursor.itemHere config).1 = .token token) (inner : token.isEnd = false) :
    Lexical config token.kind token.lexeme := by
  obtain ⟨_, splits⟩ := Lexeme.exists_atFront config cursor.rest
  obtain ⟨same, -, -⟩ := Lexeme.of_between_eq_token given
  have formed := splits.formed
  rw [same] at formed
  apply formed.lexical
  intro closing
  simp [Token.isEnd, closing] at inner

theorem Cursor.lexical_of_nextItem {config : Config} {cursor : Cursor} {token : Token}
    (given : (cursor.nextItem config).1 = .token token) (inner : token.isEnd = false) :
    Lexical config token.kind token.lexeme := by
  rw [nextItem] at given
  split at given
  · exact lexical_of_itemHere given inner
  · exact lexical_of_itemHere given inner

/-- Whether strings are decoded: those of sources, those that a cursor reads, and the literals of
all contents, which are read whole whatever follows them. -/
structure StringsDecoded (config : Config) : Prop where
  source : ∀ source token content, .token token ∈ tokenize config source →
    token.kind = .string content → Denotes token.lexeme content
  cursor : ∀ (cursor : Cursor) token content, (cursor.nextItem config).1 = .token token →
    token.kind = .string content → Denotes token.lexeme content
  literals : ∀ (cursor : Cursor) content behind, cursor.rest = literal content ++ behind →
    cursor.nextItem config =
        (.token ⟨.string content, literal content, cursor.position,
          cursor.position.after (literal content)⟩, cursor.advanceBy (literal content).length) ∧
      (cursor.nextItem config).2.rest = behind

/-- Under every configuration, strings are decoded and every content has its literal. -/
theorem stringsDecoded (config : Config) : StringsDecoded config where
  source := by
    intro source token content member isString
    have inner : token.isEnd = false := by simp [Token.isEnd, isString]
    exact (lexical_of_mem_tokenize member inner).denotes isString
  cursor := by
    intro cursor token content given isString
    have inner : token.isEnd = false := by simp [Token.isEnd, isString]
    exact (Cursor.lexical_of_nextItem given inner).denotes isString
  literals := by
    intro cursor content behind ahead
    have standing : cursor.rest = '"' :: (content.flatMap escaped ++ '"' :: behind) := by
      rw [ahead, literal, List.cons_append, List.append_assoc]
      rfl
    have item := cursor.nextItem_of_mark config standing
    rw [ofString_literal] at item
    refine ⟨item, ?_⟩
    rw [item, Cursor.rest_advanceBy, ahead, List.drop_left]

/-- A literal with each of the escapes, and one that is read as it is written. -/
example : literal ['a', '"', '\\', 'n', '\n', '\t', '\r'] =
      ['"', 'a', '\\', '"', '\\', '\\', 'n', '\\', 'n', '\\', 't', '\r', '"'] ∧
    decode ['\\', 'q', '\\', '\\', 'n'] = ['\\', 'q', '\\', 'n'] := by
  decide

end Munch
