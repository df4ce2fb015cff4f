import Munch.Proofs.Characters
import Munch.Proofs.Fronts
import Munch.Trivia

/-! # The trivia in front of a text

`leadingTrivia` asks each character with the state left by the one before. Here its answer is tied
to what trivia is: blanks, and comments that run up to a line feed or the end of the source. What
follows the answer begins neither a blank nor a comment. Text that is put behind another one changes
its trivia only where a comment runs to the end, or where a slash meets a slash. -/
set_option autoImplicit false

namespace Munch

/-- Blanks and comments, given what stands behind them: a comment has no line feed in it and runs up
to one or to the end. -/
inductive TriviaBefore (behind : Text) : Text → Prop where
  | nil : TriviaBefore behind []
  | blank {char : Char} {rest : Text} (isBlank : isWhitespace char = true)
      (tail : TriviaBefore behind rest) : TriviaBefore behind (char :: rest)
  | comment {body rest : Text} (inLine : '\n' ∉ body)
      (closed : (rest ++ behind).begins (· != '\n') = false)
      (tail : TriviaBefore behind rest) : TriviaBefore behind ('/' :: '/' :: (body ++ rest))

@[simp] theorem leadingTrivia_nil : leadingTrivia [] = [] := rfl

theorem leadingTrivia_blank {char : Char} (isBlank : isWhitespace char = true) (rest : Text) :
    leadingTrivia (char :: rest) = char :: leadingTrivia rest := by
  simp [leadingTrivia, Text.leading_cons, acceptTrivia, isBlank]

theorem leadingTrivia_eq_nil {char : Char} {rest : Text} (visible : isWhitespace char = false)
    (code : startsComment (char :: rest) = false) : leadingTrivia (char :: rest) = [] := by
  simp [leadingTrivia, Text.leading_cons, acceptTrivia, visible, code]

/-- Inside a comment everything but the line feed is passed, and stays inside. -/
theorem leading_inComment_append {body : Text} (inLine : '\n' ∉ body) (behind : Text) :
    (body ++ behind).leading acceptTrivia true = body ++ behind.leading acceptTrivia true := by
  induction body with
  | nil => rfl
  | cons char body ih =>
    have different : char ≠ '\n' := by
      rintro rfl
      exact inLine (List.mem_cons_self ..)
    have stays : acceptTrivia true char (body ++ behind) = some true := by
      cases isBlank : isWhitespace char <;> simp [acceptTrivia, isBlank, different]
    rw [List.cons_append, Text.leading_cons, stays]
    simp only [List.cons_append, List.cons.injEq, true_and]
    exact ih fun member => inLine (List.mem_cons_of_mem _ member)

/-- Inside a comment everything is trivia up to the line feed, which is read as outside of it. -/
theorem leading_inComment {body : Text} (inLine : '\n' ∉ body) {behind : Text}
    (closed : behind.begins (· != '\n') = false) :
    (body ++ behind).leading acceptTrivia true = body ++ leadingTrivia behind := by
  rw [leading_inComment_append inLine]
  rcases Text.begins_ne_eq_false_iff.mp closed with rfl | ⟨rest, rfl⟩
  · rfl
  · rfl

theorem leadingTrivia_comment {body : Text} (inLine : '\n' ∉ body) {behind : Text}
    (closed : behind.begins (· != '\n') = false) :
    leadingTrivia ('/' :: '/' :: (body ++ behind)) = '/' :: '/' :: (body ++ leadingTrivia behind) := by
  have slash : '\n' ∉ '/' :: body := by simp [inLine]
  have opens : acceptTrivia false '/' ('/' :: (body ++ behind)) = some true := rfl
  rw [leadingTrivia, Text.leading_cons, opens]
  have inside := leading_inComment slash closed
  rw [List.cons_append] at inside
  simp [inside]

theorem not_isWhitespace_of_leadingTrivia {char : Char} {rest : Text}
    (none : leadingTrivia (char :: rest) = []) : isWhitespace char = false := by
  cases isBlank : isWhitespace char with
  | false => rfl
  | true => simp [leadingTrivia_blank isBlank] at none

theorem startsComment_iff {text : Text} :
    startsComment text = true ↔ ∃ rest, text = '/' :: '/' :: rest := by
  constructor
  · intro starts
    unfold startsComment at starts
    split at starts
    · exact ⟨_, rfl⟩
    · contradiction
  · rintro ⟨rest, rfl⟩
    rfl

theorem leadingTrivia_eq_nil_of_ne {char : Char} {rest : Text}
    (visible : isWhitespace char = false) (noSlash : char ≠ '/') :
    leadingTrivia (char :: rest) = [] := by
  apply leadingTrivia_eq_nil visible
  rw [← Bool.not_eq_true]
  intro opens
  obtain ⟨inside, same⟩ := startsComment_iff.mp opens
  exact noSlash (List.cons.inj same).1

theorem not_startsComment_of_leadingTrivia {text : Text} (none : leadingTrivia text = []) :
    startsComment text = false := by
  rw [← Bool.not_eq_true]
  intro starts
  obtain ⟨rest, rfl⟩ := startsComment_iff.mp starts
  have opens : acceptTrivia false '/' ('/' :: rest) = some true := rfl
  rw [leadingTrivia, Text.leading_cons, opens] at none
  contradiction

theorem exists_leadingTrivia (text : Text) :
    ∃ behind, text = leadingTrivia text ++ behind ∧ TriviaBefore behind (leadingTrivia text) ∧
      leadingTrivia behind = [] := by
  induction size : text.length using Nat.strongRecOn generalizing text with
  | ind size ih =>
    subst size
    cases text with
    | nil => exact ⟨[], rfl, .nil, rfl⟩
    | cons char rest =>
      cases isBlank : isWhitespace char with
      | true =>
        obtain ⟨behind, same, trivia, stops⟩ := ih rest.length (by simp) rest rfl
        rw [leadingTrivia_blank isBlank]
        refine ⟨behind, ?_, .blank isBlank trivia, stops⟩
        rw [List.cons_append, ← same]
      | false =>
        cases opens : startsComment (char :: rest) with
        | false =>
          have none := leadingTrivia_eq_nil isBlank opens
          rw [none]
          exact ⟨char :: rest, rfl, .nil, none⟩
        | true =>
          obtain ⟨inside, same⟩ := startsComment_iff.mp opens
          obtain ⟨body, after, rfl, inLine, closed⟩ := Text.exists_span_ne '\n' inside
          rw [same]
          have shorter : after.length < (char :: rest).length := by
            rw [same]
            simp only [List.length_cons, List.length_append]
            omega
          obtain ⟨behind, split, trivia, stops⟩ := ih after.length shorter after rfl
          rw [leadingTrivia_comment inLine closed]
          refine ⟨behind, ?_, .comment inLine ?_ trivia, stops⟩
          · simp only [List.cons_append, List.append_assoc]
            rw [← split]
          · rw [← split]
            exact closed

theorem leadingTrivia_drop (text : Text) :
    leadingTrivia (text.drop (leadingTrivia text).length) = [] := by
  obtain ⟨behind, same, -, stops⟩ := exists_leadingTrivia text
  rw [Text.drop_length_of_append same, stops]

/-! ## Trivia in front of other texts -/

theorem TriviaBefore.of_leadingTrivia {gap ahead : Text}
    (trivia : leadingTrivia (gap ++ ahead) = gap) : TriviaBefore ahead gap := by
  obtain ⟨behind, same, before, -⟩ := exists_leadingTrivia (gap ++ ahead)
  rw [trivia] at same before
  rw [List.append_cancel_left same]
  exact before

theorem TriviaBefore.of_closing {gap : Text} (trivia : leadingTrivia gap = gap) :
    TriviaBefore [] gap := by
  apply of_leadingTrivia
  rw [List.append_nil, trivia]

theorem TriviaBefore.leadingTrivia_append {behind gap : Text} (trivia : TriviaBefore behind gap) :
    leadingTrivia (gap ++ behind) = gap ++ leadingTrivia behind := by
  induction trivia with
  | nil => rfl
  | blank isBlank _ ih =>
    rw [List.cons_append, leadingTrivia_blank isBlank, ih]
    rfl
  | comment inLine closed _ ih =>
    simp only [List.cons_append, List.append_assoc]
    rw [leadingTrivia_comment inLine closed, ih]

/-- A text is trivia by itself if it is its own leading trivia. -/
theorem triviaBefore_nil_iff {text : Text} : TriviaBefore [] text ↔ leadingTrivia text = text := by
  constructor
  · intro trivia
    have whole := trivia.leadingTrivia_append
    rw [leadingTrivia_nil, List.append_nil] at whole
    exact whole
  · exact TriviaBefore.of_closing

/-- Only whether a line feed or the end comes next matters to a gap. -/
theorem TriviaBefore.elsewhere {behind gap : Text} (trivia : TriviaBefore behind gap) {other : Text}
    (closes : behind.begins (· != '\n') = false → other.begins (· != '\n') = false) :
    TriviaBefore other gap := by
  induction trivia with
  | nil => exact .nil
  | blank isBlank _ ih => exact .blank isBlank ih
  | @comment body rest inLine closed _ ih =>
    refine .comment inLine ?_ ih
    cases rest with
    | nil => exact closes closed
    | cons char rest => exact closed

/-- Only a comment at the end of a text can be changed by what is put behind the text. -/
theorem TriviaBefore.extend {behind gap : Text} (trivia : TriviaBefore behind gap) {more : Text}
    (closes : behind = [] → more.begins (· != '\n') = false) :
    TriviaBefore (behind ++ more) gap := by
  apply trivia.elsewhere
  intro stops
  by_cases finished : behind = []
  · rw [finished, List.nil_append]
    exact closes finished
  · rw [Text.begins_append _ finished]
    exact stops

theorem leadingTrivia_append_eq_nil {text more : Text} (none : leadingTrivia text = [])
    (some : text ≠ []) (apart : text = ['/'] → more.begins (· == '/') = false) :
    leadingTrivia (text ++ more) = [] := by
  cases text with
  | nil => exact absurd rfl some
  | cons char rest =>
    refine leadingTrivia_eq_nil (not_isWhitespace_of_leadingTrivia none) ?_
    rw [← Bool.not_eq_true]
    intro starts
    obtain ⟨inside, same⟩ := startsComment_iff.mp starts
    obtain ⟨rfl, split⟩ := List.cons.inj same
    cases rest with
    | nil =>
      have noSlash := apart rfl
      have next : more = '/' :: inside := split
      rw [next, Text.begins_cons] at noSlash
      contradiction
    | cons next rest =>
      obtain ⟨rfl, -⟩ := List.cons.inj split
      have code := not_startsComment_of_leadingTrivia none
      contradiction

theorem leadingTrivia_eq_nil_of_append {text more : Text} (none : leadingTrivia (text ++ more) = []) :
    leadingTrivia text = [] := by
  cases text with
  | nil => rfl
  | cons char rest =>
    refine leadingTrivia_eq_nil (not_isWhitespace_of_leadingTrivia none) ?_
    rw [← Bool.not_eq_true]
    intro starts
    obtain ⟨inside, same⟩ := startsComment_iff.mp starts
    have opens : startsComment (char :: rest ++ more) = true := by
      rw [same]
      rfl
    rw [not_startsComment_of_leadingTrivia none] at opens
    contradiction

end Munch
