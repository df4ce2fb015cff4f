import Mathlib.Data.List.Basic
import Munch.Proofs.Pass

/-! # Trivia is passed as far as it goes

Trivia can be cut into blanks and pieces of comments in many ways: a piece of a comment may end
anywhere in its line, and what follows it may be a blank or another piece. The reader keeps one bit,
whether it stands in a comment, and passes every front of a text that can be cut in any of these
ways. So what it passes is the longest such front. Behind a front of which the last character is a
line feed, or that has blanks only, it stands outside of comments, and goes on as if it began there.
-/
set_option autoImplicit false

namespace Munch

/-- Blanks and pieces of comments, one behind the other. A piece begins with two slashes and ends
anywhere before the next line feed. -/
inductive TriviaPieces : Text → Prop where
  | nil : TriviaPieces []
  | blank {char : Char} {rest : Text} (isBlank : isWhitespace char = true)
      (tail : TriviaPieces rest) : TriviaPieces (char :: rest)
  | comment {body rest : Text} (inLine : '\n' ∉ body) (tail : TriviaPieces rest) :
      TriviaPieces ('/' :: '/' :: (body ++ rest))

structure LongestTrivia (text front : Text) : Prop where
  isPrefix : front <+: text
  pieces : TriviaPieces front
  longest : ∀ other, other <+: text → TriviaPieces other → other.length ≤ front.length

theorem TriviaBefore.pieces {behind gap : Text} (trivia : TriviaBefore behind gap) :
    TriviaPieces gap := by
  induction trivia with
  | nil => exact .nil
  | blank isBlank _ ih => exact .blank isBlank ih
  | comment inLine _ _ ih => exact .comment inLine ih

theorem acceptTrivia_blank {char : Char} (isBlank : isWhitespace char = true) (inComment : Bool)
    (rest : Text) : acceptTrivia inComment char rest = some (inComment && char != '\n') := by
  rw [acceptTrivia, if_pos isBlank]

/-- In a comment or out of one, two slashes and a piece of the line behind them are passed. -/
theorem leading_comment {body : Text} (inLine : '\n' ∉ body) (inComment : Bool) (behind : Text) :
    Text.leading acceptTrivia inComment ('/' :: '/' :: (body ++ behind)) =
      '/' :: '/' :: (body ++ behind.leading acceptTrivia true) := by
  have slash : '\n' ∉ '/' :: body := by simp [inLine]
  have opens : acceptTrivia inComment '/' ('/' :: (body ++ behind)) = some true := by
    cases inComment with
    | false => rfl
    | true => rfl
  have inside := leading_inComment_append slash behind
  rw [List.cons_append, List.cons_append] at inside
  rw [Text.leading_cons, opens]
  simp only [inside]

/-- From either state the reader passes all of a text that is cut into blanks and pieces, and behind
a line feed it is outside of comments. -/
theorem TriviaPieces.leading_append {text : Text} (pieces : TriviaPieces text) (inComment : Bool) :
    ∃ next, (text = [] ∧ inComment = false ∨ text.getLast? = some '\n' → next = false) ∧
      ∀ behind, (text ++ behind).leading acceptTrivia inComment =
        text ++ behind.leading acceptTrivia next := by
  -- The state behind the text is the one that the last piece leaves, so the induction runs from the
  -- front with the state before each piece.
  induction pieces generalizing inComment with
  | nil =>
    refine ⟨inComment, ?_, fun _ => rfl⟩
    intro outside
    rcases outside with ⟨-, outside⟩ | feed
    · exact outside
    · contradiction
  | @blank char rest isBlank _ ih =>
    obtain ⟨next, outside, passes⟩ := ih (inComment && char != '\n')
    refine ⟨next, ?_, ?_⟩
    · intro closing
      apply outside
      rcases closing with ⟨none, -⟩ | feed
      · contradiction
      · by_cases finished : rest = []
        · subst finished
          have newline : char = '\n' := Option.some.inj feed
          exact Or.inl ⟨rfl, by simp [newline]⟩
        · rw [List.getLast?_cons_of_ne_nil finished] at feed
          exact Or.inr feed
    · intro behind
      rw [List.cons_append, Text.leading_cons, acceptTrivia_blank isBlank]
      simp only [passes, List.cons_append]
  | @comment body rest inLine _ ih =>
    obtain ⟨next, outside, passes⟩ := ih true
    refine ⟨next, ?_, ?_⟩
    · intro closing
      apply outside
      rcases closing with ⟨none, -⟩ | feed
      · contradiction
      · refine Or.inr ?_
        by_cases finished : rest = []
        · subst finished
          have member := List.mem_of_getLast? feed
          simp [inLine] at member
        · rw [← List.cons_append, ← List.cons_append, List.getLast?_append_of_ne_nil _ finished]
            at feed
          exact feed
    · intro behind
      simp only [List.cons_append, List.append_assoc]
      rw [leading_comment inLine, passes]

theorem TriviaPieces.isPrefix_leadingTrivia {text : Text} (pieces : TriviaPieces text)
    (behind : Text) : text <+: leadingTrivia (text ++ behind) := by
  obtain ⟨next, -, passes⟩ := pieces.leading_append false
  rw [leadingTrivia, passes]
  exact List.prefix_append text _

theorem longestTrivia_leadingTrivia (text : Text) : LongestTrivia text (leadingTrivia text) := by
  obtain ⟨behind, same, trivia, -⟩ := exists_leadingTrivia text
  refine ⟨Text.leading_isPrefix acceptTrivia false text, trivia.pieces, ?_⟩
  intro other front pieces
  obtain ⟨rest, rfl⟩ := front
  exact (pieces.isPrefix_leadingTrivia rest).length_le

/-! ## Trivia that leaves nothing open -/

theorem leadingTrivia_append_blanks {blanks : Text}
    (allBlank : ∀ char ∈ blanks, isWhitespace char = true) (behind : Text) :
    leadingTrivia (blanks ++ behind) = blanks ++ leadingTrivia behind := by
  induction blanks with
  | nil => rfl
  | cons char rest ih =>
    have isBlank := allBlank char (List.mem_cons_self ..)
    rw [List.cons_append, leadingTrivia_blank isBlank,
      ih fun other member => allBlank other (List.mem_cons_of_mem _ member)]
    rfl

theorem TriviaPieces.leadingTrivia_append {text : Text} (pieces : TriviaPieces text)
    (feed : text.getLast? = some '\n') (behind : Text) :
    leadingTrivia (text ++ behind) = text ++ leadingTrivia behind := by
  obtain ⟨next, outside, passes⟩ := pieces.leading_append false
  have closed : next = false := outside (Or.inr feed)
  subst closed
  exact passes behind

namespace Cursor

/-- Where the trivia of a cursor goes on behind a front, passing it leaves what passing the trivia
behind that front leaves. -/
theorem rest_skipTrivia_congr {cursor other : Cursor} {front : Text}
    (goesOn : leadingTrivia (front ++ other.rest) = front ++ leadingTrivia other.rest)
    (ahead : cursor.rest = front ++ other.rest) :
    cursor.skipTrivia.rest = other.skipTrivia.rest := by
  rw [rest_skipTrivia, rest_skipTrivia, ahead, goesOn, List.length_append,
    List.drop_length_add_append]

/-- Whether a cursor passes trivia as far as it goes: all of the longest front that can be cut into
blanks and pieces of comments, and nothing behind it. -/
structure PassesTrivia (cursor : Cursor) : Prop where
  longest : ∃ trivia, LongestTrivia cursor.rest trivia ∧
    cursor.skipTrivia = cursor.advanceBy trivia.length ∧
    cursor.rest = trivia ++ cursor.skipTrivia.rest
  stands : cursor.skipTrivia.rest = [] ∨ ∃ char rest, cursor.skipTrivia.rest = char :: rest ∧
    isWhitespace char = false ∧ ¬ ['/', '/'] <+: char :: rest
  idempotent : cursor.skipTrivia.skipTrivia = cursor.skipTrivia
  closed : ∀ (other : Cursor) (trivia : Text), TriviaPieces trivia →
    (∀ char ∈ trivia, isWhitespace char = true) ∨ trivia.getLast? = some '\n' →
    cursor.rest = trivia ++ other.rest → cursor.skipTrivia.rest = other.skipTrivia.rest

/-- Every cursor passes trivia as far as it goes. -/
theorem passesTrivia_skipTrivia (cursor : Cursor) : cursor.PassesTrivia where
  longest := by
    refine ⟨leadingTrivia cursor.rest, longestTrivia_leadingTrivia cursor.rest, rfl, ?_⟩
    obtain ⟨behind, same, -, -⟩ := exists_leadingTrivia cursor.rest
    rw [rest_skipTrivia, Text.drop_length_of_append same]
    exact same
  stands := by
    have none := cursor.leadingTrivia_skipTrivia
    cases ahead : cursor.skipTrivia.rest with
    | nil => exact Or.inl rfl
    | cons char rest =>
      rw [ahead] at none
      refine Or.inr ⟨char, rest, rfl, not_isWhitespace_of_leadingTrivia none, ?_⟩
      intro opens
      obtain ⟨inside, same⟩ := opens
      have code := not_startsComment_of_leadingTrivia none
      rw [← same] at code
      contradiction
  idempotent := by
    have none := cursor.leadingTrivia_skipTrivia
    rw [skipTrivia, none]
    rfl
  closed := by
    intro other trivia pieces complete ahead
    have goesOn : leadingTrivia (trivia ++ other.rest) = trivia ++ leadingTrivia other.rest := by
      rcases complete with blanks | feed
      · exact leadingTrivia_append_blanks blanks other.rest
      · exact pieces.leadingTrivia_append feed other.rest
    exact rest_skipTrivia_congr goesOn ahead

end Cursor

end Munch
