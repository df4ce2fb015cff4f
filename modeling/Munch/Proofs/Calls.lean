import Munch.Item

/-! # Cursors that were moved by calls

Whatever is called on a cursor, it passes a number of characters and does nothing else. So a cursor
that was made for a source always stands between two parts of it, and its place is the one to which
the text passed leads. -/
set_option autoImplicit false

namespace Munch.Cursor

/-- A call that may move a cursor. The test of `advanceWhile` has a state of its own, which every
question may change. -/
inductive Call : Type 1 where
  | advance
  | advanceWhile {σ : Type} (ask : σ → Char → Bool × σ) (state : σ)
  | eat (expected : Char)
  | skipTrivia
  | nextItem (config : Config)

def call (cursor : Cursor) : Call → Cursor
  | .advance => cursor.advance
  | .advanceWhile ask state => (cursor.advanceWhile ask state).2
  | .eat expected => (cursor.eat expected).2
  | .skipTrivia => cursor.skipTrivia
  | .nextItem config => (cursor.nextItem config).2

def callAll (cursor : Cursor) (calls : List Call) : Cursor := calls.foldl call cursor

/-! ## A call passes a number of characters -/

theorem advanceBy_add (first second : Nat) (cursor : Cursor) :
    advanceBy (first + second) cursor = advanceBy second (advanceBy first cursor) := by
  induction first generalizing cursor with
  | zero => rw [Nat.zero_add, advanceBy]
  | succ first ih => rw [Nat.succ_add, advanceBy, advanceBy, ih]

variable {σ : Type}

theorem exists_advanceWhileFrom (ask : σ → Char → Bool × σ) (state : σ) (passed : Text)
    (place : Position) (rest : Text) :
    ∃ count, (advanceWhileFrom ask state passed place rest).2 =
      advanceBy count ⟨passed, rest, place⟩ := by
  induction rest generalizing state passed place with
  | nil => exact ⟨0, rfl⟩
  | cons char rest ih =>
    rw [advanceWhileFrom]
    rcases ask state char with ⟨accepted, next⟩
    cases accepted with
    | true =>
      obtain ⟨count, same⟩ := ih next (char :: passed) (place.advance char)
      exact ⟨count + 1, same⟩
    | false => exact ⟨0, rfl⟩

theorem exists_nextItem (config : Config) (cursor : Cursor) :
    ∃ count, (cursor.nextItem config).2 = advanceBy count cursor := by
  unfold nextItem
  split
  · refine ⟨(leadingTrivia cursor.rest).length +
      (Lexeme.atFront config cursor.skipTrivia.rest).text.length, ?_⟩
    rw [advanceBy_add]
    rfl
  · exact ⟨_, rfl⟩

theorem exists_call (cursor : Cursor) (made : Call) :
    ∃ count, cursor.call made = advanceBy count cursor := by
  cases made with
  | advance => exact ⟨1, rfl⟩
  | advanceWhile ask state =>
    exact exists_advanceWhileFrom ask state cursor.passed cursor.position cursor.rest
  | eat expected =>
    simp only [call, eat]
    split
    · exact ⟨1, rfl⟩
    · exact ⟨0, rfl⟩
  | skipTrivia => exact ⟨_, rfl⟩
  | nextItem config => exact exists_nextItem config cursor

/-! ## Cursors of a source -/

/-- Whether a cursor belongs to a source: what it passed and what is ahead of it are the source, and
its place is the one to which what it passed leads. -/
structure Within (source : Text) (cursor : Cursor) : Prop where
  composed : cursor.passed.reverse ++ cursor.rest = source
  placed : cursor.position = Position.start.after cursor.passed.reverse

variable {source : Text} {cursor : Cursor}

theorem within_ofText (source : Text) : Within source (ofText source) := ⟨rfl, rfl⟩

theorem Within.advance (within : Within source cursor) : Within source cursor.advance := by
  obtain ⟨composed, placed⟩ := within
  rcases cursor with ⟨passed, rest, position⟩
  cases rest with
  | nil => exact ⟨composed, placed⟩
  | cons char rest =>
    constructor
    · simpa [Cursor.advance] using composed
    · have before : position = Position.start.after passed.reverse := placed
      simp only [Cursor.advance, List.reverse_cons]
      rw [Position.after_append, ← before]
      rfl

theorem Within.advanceBy (within : Within source cursor) (count : Nat) :
    Within source (advanceBy count cursor) := by
  induction count generalizing cursor with
  | zero => exact within
  | succ count ih => exact ih within.advance

theorem Within.call (within : Within source cursor) (made : Call) :
    Within source (cursor.call made) := by
  obtain ⟨count, same⟩ := exists_call cursor made
  rw [same]
  exact within.advanceBy count

theorem Within.callAll (within : Within source cursor) (calls : List Call) :
    Within source (cursor.callAll calls) := by
  induction calls generalizing cursor with
  | nil => exact within
  | cons made calls ih => exact ih (within.call made)

end Munch.Cursor
