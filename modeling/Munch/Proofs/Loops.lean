import Mathlib.Logic.Relation
import Munch.Proofs.LeadingTrivia
import Munch.Proofs.NumberReading
import Munch.Proofs.StringElements

/-! # The loops of the readers end

Four loops read text: over the characters of a class, over trivia, over what is glued to a number, and
over the elements of a string. Each is given here by its turns, which say what of the text ahead one
turn may leave. All of them end, and where they end is where the texts begin that the readers leave
behind them. -/
set_option autoImplicit false

namespace Munch

/-- Whether a loop, given by its turns, ends from every text: each turn leaves less than it finds,
turns lead to what `stop` leaves of the text, and no turn leads on from there. -/
structure LoopEnds (turn : Text → Text → Prop) (stop : Text → Text) : Prop where
  shortens : ∀ text rest, turn text rest → rest.length < text.length
  reaches : ∀ text, Relation.ReflTransGen turn text (stop text)
  stops : ∀ text rest, ¬ turn (stop text) rest

/-! ## Characters of a class -/

inductive ClassTurn (test : Char → Bool) : Text → Text → Prop where
  | pass {char : Char} {rest : Text} (inside : test char = true) : ClassTurn test (char :: rest) rest

theorem loopEnds_class (test : Char → Bool) :
    LoopEnds (ClassTurn test) fun text => text.drop (text.takeWhile test).length where
  shortens := by
    intro text rest turn
    cases turn with
    | pass inside => exact Nat.lt_succ_self _
  reaches := by
    intro text
    induction text with
    | nil => exact .refl
    | cons char rest ih =>
      cases inside : test char with
      | true =>
        rw [List.takeWhile_cons_of_pos inside]
        exact .head (.pass inside) ih
      | false =>
        rw [List.takeWhile_cons_of_neg (by simp [inside])]
        exact .refl
  stops := by
    intro text rest turn
    obtain ⟨body, behind, rfl, inside, stops⟩ := Text.exists_span test text
    simp only [Text.takeWhile_append_of_begins inside stops, List.drop_left] at turn
    cases turn with
    | pass inside => simp [inside] at stops

/-! ## Trivia -/

inductive TriviaTurn : Text → Text → Prop where
  | blank {char : Char} {rest : Text} (isBlank : isWhitespace char = true) :
      TriviaTurn (char :: rest) rest
  | comment {body behind : Text} (inLine : '\n' ∉ body)
      (closed : behind.begins (· != '\n') = false) :
      TriviaTurn ('/' :: '/' :: (body ++ behind)) behind

theorem TriviaTurn.leadingTrivia_ne_nil {text rest : Text} (turn : TriviaTurn text rest) :
    leadingTrivia text ≠ [] := by
  cases turn with
  | blank isBlank => simp [leadingTrivia_blank isBlank]
  | comment inLine closed => simp [leadingTrivia_comment inLine closed]

theorem TriviaBefore.turns {behind gap : Text} (trivia : TriviaBefore behind gap) :
    Relation.ReflTransGen TriviaTurn (gap ++ behind) behind := by
  induction trivia with
  | nil => exact .refl
  | blank isBlank _ ih => exact .head (.blank isBlank) ih
  | comment inLine closed _ ih =>
    simp only [List.cons_append, List.append_assoc]
    exact .head (.comment inLine closed) ih

theorem loopEnds_trivia :
    LoopEnds TriviaTurn fun text => text.drop (leadingTrivia text).length where
  shortens := by
    intro text rest turn
    cases turn with
    | blank isBlank => exact Nat.lt_succ_self _
    | comment inLine closed =>
      simp only [List.length_cons, List.length_append]
      omega
  reaches := by
    intro text
    obtain ⟨behind, same, trivia, -⟩ := exists_leadingTrivia text
    have turns := trivia.turns
    rw [← same] at turns
    rw [Text.drop_length_of_append same]
    exact turns
  stops := by
    intro text rest turn
    exact turn.leadingTrivia_ne_nil (leadingTrivia_drop text)

/-! ## What is glued to a number -/

namespace Number

inductive GluedTurn : Text → Text → Prop where
  | name {char : Char} {rest : Text} (continues : isIdentifierContinue char = true) :
      GluedTurn (char :: rest) rest
  | dot {rest : Text} (digit : rest.begins isDigit = true) : GluedTurn ('.' :: rest) rest

theorem gluedTurn_iff {char : Char} {rest behind : Text} : GluedTurn (char :: rest) behind ↔
    behind = rest ∧ (isIdentifierContinue char || startsFraction (char :: rest)) = true := by
  rw [Bool.or_eq_true, startsFraction_iff]
  constructor
  · intro turn
    cases turn with
    | name continues => exact ⟨rfl, Or.inl continues⟩
    | dot digit => exact ⟨rfl, Or.inr ⟨rest, rfl, digit⟩⟩
  · rintro ⟨rfl, continues | ⟨inside, same, digit⟩⟩
    · exact .name continues
    · cases same
      exact .dot digit

theorem loopEnds_glued : LoopEnds GluedTurn fun text => text.drop (gluedPart text).length where
  shortens := by
    intro text rest turn
    cases turn with
    | name continues => exact Nat.lt_succ_self _
    | dot digit => exact Nat.lt_succ_self _
  reaches := by
    intro text
    induction text with
    | nil => exact .refl
    | cons char rest ih =>
      rw [gluedPart_cons]
      split
      · rename_i accepted
        exact .head (gluedTurn_iff.mpr ⟨rfl, accepted⟩) ih
      · exact .refl
  stops := by
    intro text rest turn
    obtain ⟨behind, same, -, loose⟩ := exists_gluedPart text
    rw [Text.drop_length_of_append same] at turn
    cases behind with
    | nil => cases turn
    | cons char behind =>
      obtain ⟨-, accepted⟩ := gluedTurn_iff.mp turn
      rw [gluedPart_cons, if_pos accepted] at loose
      contradiction

end Number

/-! ## The elements of a string -/

namespace StringLiteral

/-- A turn inside a string passes a plain character, a backslash with the character it escapes, or a
backslash that stands directly before a line feed or the end. -/
inductive BodyTurn : Text → Text → Prop where
  | plain {char : Char} {rest : Text} (free : char ≠ '"' ∧ char ≠ '\\' ∧ char ≠ '\n') :
      BodyTurn (char :: rest) rest
  | escape {char : Char} {rest : Text} (inLine : char ≠ '\n') :
      BodyTurn ('\\' :: char :: rest) rest
  | hanging {behind : Text} (stops : behind.begins (· != '\n') = false) :
      BodyTurn ('\\' :: behind) behind

theorem turns_written (elements : List Element) (behind : Text) :
    Relation.ReflTransGen BodyTurn (written elements ++ behind) behind := by
  induction elements with
  | nil => exact .refl
  | cons element rest ih =>
    rw [written_cons, List.append_assoc]
    cases element with
    | plain char free => exact .head (.plain free) ih
    | escape char inLine => exact .head (.escape inLine) ih

theorem OpenBody.turns {inside : Text} (isOpen : OpenBody inside) {behind : Text}
    (stops : behind.begins (· != '\n') = false) :
    Relation.ReflTransGen BodyTurn (inside ++ behind) behind := by
  cases isOpen with
  | whole elements => exact turns_written elements behind
  | hanging elements =>
    rw [List.append_assoc]
    exact (turns_written elements ('\\' :: behind)).tail (.hanging stops)

theorem not_bodyTurn_mark (behind rest : Text) : ¬ BodyTurn ('"' :: behind) rest := by
  intro turn
  cases turn with
  | plain free => exact free.1 rfl

theorem not_bodyTurn_of_begins {behind : Text} (stops : behind.begins (· != '\n') = false)
    (rest : Text) : ¬ BodyTurn behind rest := by
  intro turn
  cases turn with
  | plain free => simp [free.2.2] at stops
  | escape inLine => simp at stops
  | hanging _ => simp at stops

/-- What the body of a string leaves of the text behind the opening mark: the closing mark and what
follows it, or the end of the line. -/
theorem drop_body_cases (text : Text) :
    ∃ behind, text.drop (body text).length = behind ∧ Relation.ReflTransGen BodyTurn text behind ∧
      ∀ rest, ¬ BodyTurn behind rest := by
  cases afterMark text with
  | closed elements behind =>
    have none : body ('"' :: behind) = [] := rfl
    refine ⟨'"' :: behind, ?_, turns_written elements _, not_bodyTurn_mark behind⟩
    rw [body_written_append, none, List.append_nil, List.drop_left]
  | @unclosed inside behind isOpen stops =>
    refine ⟨behind, ?_, isOpen.turns stops, not_bodyTurn_of_begins stops⟩
    rw [isOpen.body_append stops, List.drop_left]

theorem loopEnds_body : LoopEnds BodyTurn fun text => text.drop (body text).length where
  shortens := by
    intro text rest turn
    cases turn with
    | plain free => exact Nat.lt_succ_self _
    | escape inLine =>
      simp only [List.length_cons]
      omega
    | hanging stops => exact Nat.lt_succ_self _
  reaches := by
    intro text
    obtain ⟨behind, left, turns, -⟩ := drop_body_cases text
    rw [left]
    exact turns
  stops := by
    intro text rest
    obtain ⟨behind, left, -, stops⟩ := drop_body_cases text
    rw [left]
    exact stops rest

end StringLiteral

end Munch
