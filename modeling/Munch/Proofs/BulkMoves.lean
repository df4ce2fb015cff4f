import Munch.Proofs.Slices

/-! # Moving in bulk

A cursor can look ahead without moving, and can pass many characters in one call. Both do what single
steps do: looking ahead gives what is next behind as many steps on a copy, and a bulk move is as many
steps as there are characters before the first that the test refuses. The test may change its state
with every question, so that its answers depend on how often it is asked and in which order. It is
asked once for each character that is passed and for the one refused, and for no other. -/
set_option autoImplicit false

namespace Munch.Cursor

section Tests

variable {σ : Type} (ask : σ → Char → Bool × σ)

def stateAfter (state : σ) (text : Text) : σ :=
  text.foldl (fun state char => (ask state char).2) state

def AcceptsAll : σ → Text → Prop
  | _, [] => True
  | state, char :: rest => (ask state char).1 = true ∧ AcceptsAll (ask state char).2 rest

/-- The longest front of a text whose characters a test accepts. -/
structure LongestAccepted (state : σ) (text front : Text) : Prop where
  isFront : front <+: text
  accepted : AcceptsAll ask state front
  longest : ∀ other, other <+: text → AcceptsAll ask state other → other.length ≤ front.length

/-- For which characters of a text a test is asked behind an accepted front: for those of the front
and, if any stands behind it, for the one refused. -/
inductive AskedFor (state : σ) (front : Text) : Text → Text → Prop where
  | all : AskedFor state front front front
  | refused {char : Char} (behind : Text)
      (refused : (ask (stateAfter ask state front) char).1 = false) :
      AskedFor state front (front ++ char :: behind) (front ++ [char])

def recording (state : σ × Text) (char : Char) : Bool × (σ × Text) :=
  ((ask state.1 char).1, (ask state.1 char).2, state.2 ++ [char])

variable {ask}

theorem acceptsAll_append {state : σ} {first second : Text} :
    AcceptsAll ask state (first ++ second) ↔
      AcceptsAll ask state first ∧ AcceptsAll ask (stateAfter ask state first) second := by
  induction first generalizing state with
  | nil => simp [AcceptsAll, stateAfter]
  | cons char rest ih =>
    rw [List.cons_append, AcceptsAll, AcceptsAll, ih, and_assoc]
    rfl

/-- Behind the character refused no front is accepted. -/
theorem AskedFor.longestAccepted {state : σ} {front text asked : Text}
    (accepted : AcceptsAll ask state front) (questions : AskedFor ask state front text asked) :
    LongestAccepted ask state text front := by
  cases questions with
  | all =>
    refine ⟨List.prefix_refl front, accepted, ?_⟩
    intro other isFront _
    exact isFront.length_le
  | @refused char behind refused =>
    refine ⟨List.prefix_append front _, accepted, ?_⟩
    intro other isFront otherAccepted
    by_contra longer
    have inside : front ++ [char] <+: other := by
      apply List.prefix_of_prefix_length_le _ isFront
      · rw [List.length_append, List.length_singleton]
        omega
      · exact ⟨behind, by rw [List.append_assoc, List.singleton_append]⟩
    obtain ⟨more, rfl⟩ := inside
    obtain ⟨early, -⟩ := acceptsAll_append.mp otherAccepted
    obtain ⟨-, last, -⟩ := acceptsAll_append.mp early
    rw [refused] at last
    contradiction

theorem stateAfter_recording (state : σ) (asked text : Text) :
    stateAfter (recording ask) (state, asked) text = (stateAfter ask state text, asked ++ text) := by
  induction text generalizing state asked with
  | nil => simp [stateAfter]
  | cons char rest ih =>
    have later := ih (ask state char).2 (asked ++ [char])
    rw [List.append_cons]
    exact later

theorem acceptsAll_recording {state : σ} {asked text : Text} :
    AcceptsAll (recording ask) (state, asked) text ↔ AcceptsAll ask state text := by
  induction text generalizing state asked with
  | nil => rfl
  | cons char rest ih => exact and_congr Iff.rfl ih

/-- One more character that is accepted comes before all other questions. -/
theorem AskedFor.cons {state : σ} {front text asked : Text} {char : Char}
    (questions : AskedFor ask (ask state char).2 front text asked) :
    AskedFor ask state (char :: front) (char :: text) (char :: asked) := by
  cases questions with
  | all => exact .all
  | refused behind refused => exact AskedFor.refused behind refused

theorem AskedFor.eq_take {state : σ} {front text asked : Text}
    (questions : AskedFor ask state front text asked) : asked = text.take (front.length + 1) := by
  cases questions with
  | all => exact (List.take_of_length_le (Nat.le_succ _)).symm
  | refused behind _ => rw [List.take_length_add_append, List.take_succ_cons, List.take_zero]

theorem LongestAccepted.unique {state : σ} {text front other : Text}
    (one : LongestAccepted ask state text front) (two : LongestAccepted ask state text other) :
    front = other := by
  have most := two.longest front one.isFront one.accepted
  have least := one.longest other two.isFront two.accepted
  have inside := List.prefix_of_prefix_length_le one.isFront two.isFront most
  exact inside.eq_of_length (Nat.le_antisymm most least)

theorem longestAccepted_recording {state : σ} {asked text front : Text}
    (longest : LongestAccepted (recording ask) (state, asked) text front) :
    LongestAccepted ask state text front where
  isFront := longest.isFront
  accepted := acceptsAll_recording.mp longest.accepted
  longest := by
    intro other isFront accepted
    exact longest.longest other isFront (acceptsAll_recording.mpr accepted)

end Tests

/-! ## Bulk moves -/

section Moves

variable {σ : Type} (ask : σ → Char → Bool × σ)

theorem exists_advanceWhile (state : σ) (cursor : Cursor) : ∃ front asked,
    AcceptsAll ask state front ∧ AskedFor ask state front cursor.rest asked ∧
      cursor.advanceWhile ask state =
        (stateAfter ask state asked, advanceBy front.length cursor) := by
  obtain ⟨passed, rest, place⟩ := cursor
  induction rest generalizing state passed place with
  | nil => exact ⟨[], [], trivial, .all, rfl⟩
  | cons char rest ih =>
    rcases answer : ask state char with ⟨answered, next⟩
    have said : (ask state char).1 = answered := by rw [answer]
    have left : (ask state char).2 = next := by rw [answer]
    cases answered with
    | true =>
      obtain ⟨front, asked, accepted, questions, moved⟩ :=
        ih next (char :: passed) (place.advance char)
      rw [← left] at accepted questions
      refine ⟨char :: front, char :: asked, ⟨said, accepted⟩, questions.cons, ?_⟩
      have step : advanceWhile ask state ⟨passed, char :: rest, place⟩ =
          advanceWhile ask next ⟨char :: passed, rest, place.advance char⟩ := by
        simp only [advanceWhile, advanceWhileFrom, answer]
      rw [step, moved, ← left]
      rfl
    | false =>
      refine ⟨[], [char], trivial, .refused rest said, ?_⟩
      simp only [advanceWhile, advanceWhileFrom, answer]
      rw [← left]
      rfl

/-- Whether a cursor that is moved by a test passes a front of what is ahead of it, asks for the
right characters, and goes where single steps lead. -/
structure PassesFront (state : σ) (cursor : Cursor) (front asked : Text) : Prop where
  longest : LongestAccepted ask state cursor.rest front
  questions : AskedFor ask state front cursor.rest asked
  moved : cursor.advanceWhile ask state =
    (stateAfter ask state asked, advanceBy front.length cursor)
  recorded : cursor.advanceWhile (recording ask) (state, []) =
    ((stateAfter ask state asked, asked), advanceBy front.length cursor)

theorem exists_passesFront (state : σ) (cursor : Cursor) :
    ∃ front asked, PassesFront ask state cursor front asked := by
  obtain ⟨front, asked, accepted, questions, moved⟩ := exists_advanceWhile ask state cursor
  refine ⟨front, asked, questions.longestAccepted accepted, questions, moved, ?_⟩
  -- Writing down the questions changes none of the answers, so the same front is passed.
  obtain ⟨other, otherAsked, otherAccepted, otherQuestions, otherMoved⟩ :=
    exists_advanceWhile (recording ask) (state, []) cursor
  have otherLongest := longestAccepted_recording (otherQuestions.longestAccepted otherAccepted)
  have sameFront : other = front := otherLongest.unique (questions.longestAccepted accepted)
  have sameAsked : otherAsked = asked := by rw [otherQuestions.eq_take, questions.eq_take, sameFront]
  rw [otherMoved, stateAfter_recording, sameFront, sameAsked, List.nil_append]

end Moves

theorem peekAhead_eq (cursor : Cursor) (count : Nat) :
    cursor.peekAhead count = (advanceBy count cursor).peek := by
  rw [peek, rest_advanceBy, List.head?_drop, peekAhead]

theorem Within.sliceFrom_advanceBy {source : Text} {cursor : Cursor} (within : Within source cursor)
    (count : Nat) :
    (Cursor.advanceBy count cursor).sliceFrom cursor.position.offset = some (cursor.rest.take count) := by
  have behind := within.advanceBy count
  rw [behind.sliceFrom_eq]
  refine Text.slice_eq_some_iff.mpr
    ⟨cursor.passed.reverse, cursor.rest.drop count, ?_, within.offset_eq, ?_⟩
  · rw [List.take_append_drop, within.composed]
  · rw [behind.offset_eq, passed_advanceBy]

/-- Whether a cursor of a source sees and does at once what single steps see and do. -/
structure MovesAsSteps (source : Text) (cursor : Cursor) : Prop where
  ahead : source.dropBytes cursor.position.offset = some cursor.rest
  peekAhead : ∀ count, cursor.peekAhead count = (advanceBy count cursor).peek
  beyond : ∀ count, cursor.peekAhead count = none ↔ cursor.rest.length < count + 1
  bulk : ∀ {σ : Type} (ask : σ → Char → Bool × σ) (state : σ), ∃ front asked,
    PassesFront ask state cursor front asked ∧
      (cursor.advanceWhile ask state).2.sliceFrom cursor.position.offset = some front ∧
      front ++ (cursor.advanceWhile ask state).2.rest = cursor.rest

/-- Whatever a program does with cursors of a source, they move as in single steps. -/
theorem movesAsSteps_operateAll (source : Text) (operations : List Operation) :
    MovesAsSteps source ((Session.ofText source).operateAll operations).cursor := by
  have within := ((Session.within_ofText source).operateAll operations).cursor
  generalize ((Session.ofText source).operateAll operations).cursor = cursor at within
  constructor
  case ahead =>
    rw [within.offset_eq, ← within.composed]
    exact Text.dropBytes_append _ _
  case peekAhead => exact cursor.peekAhead_eq
  case beyond =>
    intro count
    rw [Cursor.peekAhead, List.getElem?_eq_none_iff]
    omega
  case bulk =>
    intro σ ask state
    obtain ⟨front, asked, passes⟩ := exists_passesFront ask state cursor
    have taken : cursor.rest.take front.length = front :=
      (List.prefix_iff_eq_take.mp passes.longest.isFront).symm
    refine ⟨front, asked, passes, ?_, ?_⟩
    · rw [passes.moved, within.sliceFrom_advanceBy, taken]
    · have whole := List.take_append_drop front.length cursor.rest
      rw [taken] at whole
      rw [passes.moved, rest_advanceBy, whole]

/-- A test that passes two characters is asked for a third, and leaves it ahead. -/
example : (advanceWhile (recording fun left _ => (decide (0 < left), left - 1)) (2, [])
    (ofText ['é', '\n', 'x', 'y'])) =
      ((0, ['é', '\n', 'x']), ⟨['\n', 'é'], ['x', 'y'], ⟨3, 2, 1⟩⟩) := by
  decide

end Munch.Cursor
