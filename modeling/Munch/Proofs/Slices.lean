import Mathlib.Algebra.Group.Nat.Defs
import Munch.Proofs.Positions

/-! # Slices and counters are safe

A slice of a source exists only between two offsets that do not cross and of which none falls inside a
character, and a counter holds only what fits a machine word. Cursors keep both in order: whatever is
done with a cursor of a source, its offset is a boundary, so the text ahead of it is a slice of the
source, and so is every lexeme that is read. Line and column never exceed the offset by more than
one, so no counter runs over if the source takes less than half of the range of a word. A slice that
a caller asks for by itself is refused exactly where it begins behind the cursor or in a character. -/
set_option autoImplicit false

namespace Munch

/-! ## Boundaries and slices of a text -/

namespace Text

def IsBoundary (source : Text) (offset : Nat) : Prop :=
  ∃ before behind : Text, source = before ++ behind ∧ offset = before.utf8Length

def InsideChar (source : Text) (offset : Nat) : Prop :=
  ∃ (before : Text) (char : Char) (behind : Text), source = before ++ char :: behind ∧
    before.utf8Length < offset ∧ offset < before.utf8Length + char.utf8Size

theorem length_le_utf8Length (text : Text) : text.length ≤ text.utf8Length := by
  induction text with
  | nil => exact Nat.le_refl 0
  | cons char rest ih =>
    have size := char.utf8Size_pos
    rw [List.length_cons, utf8Length_cons]
    omega

theorem IsBoundary.le_utf8Length {source : Text} {offset : Nat}
    (boundary : source.IsBoundary offset) : offset ≤ source.utf8Length := by
  obtain ⟨before, behind, rfl, rfl⟩ := boundary
  rw [utf8Length_append]
  exact Nat.le_add_right _ _

theorem isBoundary_or_insideChar {source : Text} {offset : Nat}
    (fewer : offset ≤ source.utf8Length) : source.IsBoundary offset ∨ source.InsideChar offset := by
  induction source generalizing offset with
  | nil => exact Or.inl ⟨[], [], rfl, Nat.le_zero.mp fewer⟩
  | cons char rest ih =>
    rw [utf8Length_cons] at fewer
    by_cases first : offset = 0
    · exact Or.inl ⟨[], char :: rest, rfl, first⟩
    by_cases inside : offset < char.utf8Size
    · refine Or.inr ⟨[], char, rest, rfl, ?_, ?_⟩
      · rw [utf8Length_nil]
        omega
      · rw [utf8Length_nil]
        omega
    · have later : offset - char.utf8Size ≤ utf8Length rest := by omega
      rcases ih later with ⟨before, behind, rfl, bytes⟩ | ⟨before, next, behind, rfl, more, less⟩
      · refine Or.inl ⟨char :: before, behind, rfl, ?_⟩
        rw [utf8Length_cons]
        omega
      · refine Or.inr ⟨char :: before, next, behind, rfl, ?_, ?_⟩
        · rw [utf8Length_cons]
          omega
        · rw [utf8Length_cons]
          omega

theorem IsBoundary.not_insideChar {source : Text} {offset : Nat}
    (boundary : source.IsBoundary offset) : ¬ source.InsideChar offset := by
  obtain ⟨before, behind, rfl, rfl⟩ := boundary
  rintro ⟨first, char, rest, same, more, less⟩
  obtain ⟨middle, rfl, split⟩ := exists_append_of_utf8Length_le same.symm (Nat.le_of_lt more)
  rw [utf8Length_append] at more less
  cases middle with
  | nil =>
    rw [utf8Length_nil] at more
    omega
  | cons next middle =>
    obtain ⟨rfl, -⟩ := List.cons.inj split
    rw [utf8Length_cons] at less
    omega

theorem dropBytes_eq_some_iff {source behind : Text} {offset : Nat} :
    source.dropBytes offset = some behind ↔
      ∃ before, source = before ++ behind ∧ offset = before.utf8Length := by
  constructor
  · intro dropped
    induction source generalizing offset with
    | nil =>
      cases offset with
      | zero =>
        cases dropped
        exact ⟨[], rfl, rfl⟩
      | succ bytes => simp [dropBytes] at dropped
    | cons char rest ih =>
      cases offset with
      | zero =>
        cases dropped
        exact ⟨[], rfl, rfl⟩
      | succ bytes =>
        rw [dropBytes] at dropped
        split at dropped
        · rename_i fits
          obtain ⟨before, same, left⟩ := ih dropped
          refine ⟨char :: before, by rw [same, List.cons_append], ?_⟩
          rw [utf8Length_cons]
          omega
        · contradiction
  · rintro ⟨before, rfl, rfl⟩
    exact dropBytes_append before behind

/-- A slice is the text between its offsets. -/
theorem slice_eq_some_iff {source inside : Text} {first last : Nat} :
    source.slice first last = some inside ↔ ∃ before behind, source = before ++ (inside ++ behind) ∧
      first = before.utf8Length ∧ last = (before ++ inside).utf8Length := by
  constructor
  · intro sliced
    rw [slice] at sliced
    split at sliced
    · rename_i ordered
      obtain ⟨ahead, dropped, taken⟩ := Option.bind_eq_some_iff.mp sliced
      obtain ⟨before, rfl, start⟩ := dropBytes_eq_some_iff.mp dropped
      obtain ⟨behind, rfl, bytes⟩ := takeBytes_eq_some_iff.mp taken
      refine ⟨before, behind, rfl, start, ?_⟩
      rw [utf8Length_append]
      omega
    · contradiction
  · rintro ⟨before, behind, rfl, rfl, rfl⟩
    rw [utf8Length_append]
    exact slice_append before inside behind

/-- Up to a boundary, a slice is refused where it begins behind it or in a character. -/
theorem slice_eq_none_iff {source : Text} {first last : Nat} (boundary : source.IsBoundary last) :
    source.slice first last = none ↔ last < first ∨ source.InsideChar first := by
  constructor
  · intro refused
    by_contra valid
    obtain ⟨ordered, outside⟩ := not_or.mp valid
    have within := boundary.le_utf8Length
    obtain ⟨before, behind, same, bytes⟩ := boundary
    rcases isBoundary_or_insideChar (Nat.le_trans (Nat.le_of_not_lt ordered) within) with
      ⟨front, rest, split, start⟩ | inside
    · rw [split] at same
      obtain ⟨middle, rfl, rfl⟩ := exists_append_of_utf8Length_le same (by omega)
      have taken := slice_eq_some_iff.mpr ⟨front, behind, split, start, bytes⟩
      rw [refused] at taken
      contradiction
    · exact outside inside
  · intro invalid
    cases sliced : source.slice first last with
    | none => rfl
    | some inside =>
      obtain ⟨before, behind, same, start, stop⟩ := slice_eq_some_iff.mp sliced
      rcases invalid with crossed | inChar
      · rw [utf8Length_append] at stop
        omega
      · have starts : source.IsBoundary first := ⟨before, inside ++ behind, same, start⟩
        exact absurd inChar starts.not_insideChar

end Text

namespace Cursor

/-! ## Slices of a cursor -/

theorem sliceBack_cons (slice : Text) (char : Char) (bytes : Nat) (passed : Text) :
    sliceBack slice (char.utf8Size + bytes) (char :: passed) =
      sliceBack (char :: slice) bytes passed := by
  obtain ⟨less, total, fits, left⟩ := Text.exists_succ_utf8Size_add char bytes
  rw [total, sliceBack, if_pos fits, left]

theorem sliceBack_reverse (slice inside earlier : Text) :
    sliceBack slice inside.utf8Length (inside.reverse ++ earlier) = some (inside ++ slice) := by
  induction inside using List.reverseRecOn generalizing slice with
  | nil =>
    rw [Text.utf8Length_nil, sliceBack]
    rfl
  | append_singleton inside char ih =>
    have bytes : Text.utf8Length (inside ++ [char]) = char.utf8Size + Text.utf8Length inside := by
      rw [Text.utf8Length_append, Text.utf8Length_cons, Text.utf8Length_nil]
      omega
    rw [bytes, List.reverse_append, List.reverse_singleton, List.singleton_append,
      List.cons_append, sliceBack_cons, ih, List.append_assoc, List.singleton_append]

theorem exists_of_sliceBack {slice passed text : Text} {bytes : Nat}
    (sliced : sliceBack slice bytes passed = some text) : ∃ inside earlier,
      passed = inside.reverse ++ earlier ∧ bytes = inside.utf8Length ∧ text = inside ++ slice := by
  induction passed generalizing slice bytes with
  | nil =>
    cases bytes with
    | zero =>
      cases sliced
      exact ⟨[], [], rfl, rfl, rfl⟩
    | succ bytes => simp [sliceBack] at sliced
  | cons char passed ih =>
    cases bytes with
    | zero =>
      cases sliced
      exact ⟨[], char :: passed, rfl, rfl, rfl⟩
    | succ bytes =>
      rw [sliceBack] at sliced
      split at sliced
      · rename_i fits
        obtain ⟨inside, earlier, rfl, left, rfl⟩ := ih sliced
        refine ⟨inside ++ [char], earlier, by simp, ?_, by simp⟩
        rw [Text.utf8Length_append, Text.utf8Length_cons, Text.utf8Length_nil]
        omega
      · contradiction

section Within

variable {source : Text} {cursor : Cursor}

theorem Within.offset_eq (within : Within source cursor) :
    cursor.position.offset = Text.utf8Length cursor.passed.reverse := by
  rw [within.placed, Position.offset_start_after]

/-- What a cursor of a source gives back from an offset on is the slice of the source. -/
theorem Within.sliceFrom_eq (within : Within source cursor) (offset : Nat) :
    cursor.sliceFrom offset = source.slice offset cursor.position.offset := by
  have bytes := within.offset_eq
  apply Option.ext
  intro text
  rw [Text.slice_eq_some_iff]
  constructor
  · intro sliced
    rw [sliceFrom] at sliced
    split at sliced
    · rename_i ordered
      obtain ⟨inside, earlier, passed, left, same⟩ := exists_of_sliceBack sliced
      rw [List.append_nil] at same
      subst same
      rw [passed, List.reverse_append, List.reverse_reverse, Text.utf8Length_append] at bytes
      refine ⟨earlier.reverse, cursor.rest, ?_, by omega, ?_⟩
      · rw [← within.composed, passed, List.reverse_append, List.reverse_reverse, List.append_assoc]
      · rw [Text.utf8Length_append]
        omega
    · contradiction
  · rintro ⟨before, behind, same, rfl, last⟩
    -- The passed text and the text up to the end of the slice have the same bytes.
    have composed := within.composed
    rw [same, ← List.append_assoc] at composed
    have passed : cursor.passed.reverse = before ++ text := by
      refine (Text.append_inj_of_utf8Length_eq composed ?_).1
      omega
    have reversed : cursor.passed = text.reverse ++ before.reverse := by
      rw [← List.reverse_append, ← passed, List.reverse_reverse]
    rw [Text.utf8Length_append] at last
    have left : cursor.position.offset - before.utf8Length = text.utf8Length := by omega
    rw [sliceFrom, if_pos (by omega), left, reversed, sliceBack_reverse, List.append_nil]

/-- The text ahead of a cursor is the slice from its offset to the end. -/
theorem Within.slice_rest (within : Within source cursor) :
    source.slice cursor.position.offset source.utf8Length = some cursor.rest := by
  refine Text.slice_eq_some_iff.mpr ⟨cursor.passed.reverse, [], ?_, within.offset_eq, ?_⟩
  · rw [List.append_nil, within.composed]
  · rw [within.composed]

theorem Within.isBoundary (within : Within source cursor) :
    source.IsBoundary cursor.position.offset :=
  ⟨cursor.passed.reverse, cursor.rest, within.composed.symm, within.offset_eq⟩

theorem passed_advanceBy (count : Nat) (cursor : Cursor) :
    (advanceBy count cursor).passed.reverse = cursor.passed.reverse ++ cursor.rest.take count := by
  induction count generalizing cursor with
  | zero => simp [advanceBy]
  | succ count ih =>
    rcases cursor with ⟨passed, rest, position⟩
    cases rest with
    | nil => simp [advanceBy, ih, advance]
    | cons char rest => simp [advanceBy, ih, advance]

/-- The text of the item that is read is the slice from where it starts to where the reading leaves
the cursor. -/
theorem Within.sliceFrom_itemHere (within : Within source cursor) (config : Config) :
    (cursor.itemHere config).2.sliceFrom (cursor.itemHere config).1.start.offset =
      some (cursor.itemHere config).1.text := by
  have front := Lexeme.text_atFront_isPrefix config cursor.rest
  have behind : Within source (cursor.itemHere config).2 := within.advanceBy _
  have passed : (cursor.itemHere config).2.passed.reverse =
      cursor.passed.reverse ++ (cursor.itemHere config).1.text := by
    rw [snd_itemHere, passed_advanceBy, ← List.prefix_iff_eq_take.mp front, itemHere,
      Lexeme.text_between]
  have start : (cursor.itemHere config).1.start = cursor.position := by
    rw [itemHere, Lexeme.start_between]
  rw [behind.sliceFrom_eq, start]
  refine Text.slice_eq_some_iff.mpr ⟨cursor.passed.reverse, (cursor.itemHere config).2.rest, ?_,
    within.offset_eq, ?_⟩
  · rw [← List.append_assoc, ← passed, behind.composed]
  · rw [behind.offset_eq, passed]

theorem Within.sliceFrom_nextItem (within : Within source cursor) (config : Config) :
    (cursor.nextItem config).2.sliceFrom (cursor.nextItem config).1.start.offset =
      some (cursor.nextItem config).1.text := by
  unfold nextItem
  split
  · have skipped : Within source cursor.skipTrivia := within.advanceBy _
    exact skipped.sliceFrom_itemHere config
  · exact within.sliceFrom_itemHere config

/-! ## Counters of a cursor -/

theorem Within.line_le (within : Within source cursor) :
    1 ≤ cursor.position.line ∧ cursor.position.line ≤ cursor.position.offset + 1 := by
  have fewer := Text.length_le_utf8Length cursor.passed.reverse
  have feeds : cursor.passed.reverse.count '\n' ≤ cursor.passed.reverse.length :=
    List.count_le_length
  rw [within.placed, Position.start_after]
  simp only
  omega

theorem Within.column_le (within : Within source cursor) :
    1 ≤ cursor.position.column ∧ cursor.position.column ≤ cursor.position.offset + 1 := by
  have fewer := Text.length_le_utf8Length cursor.passed.reverse
  have part := (List.takeWhile_prefix (l := cursor.passed.reverse.reverse) (· != '\n')).length_le
  rw [List.length_reverse] at part
  rw [within.placed, Position.start_after]
  simp only
  omega

theorem Within.offset_add_le (within : Within source cursor) {char : Char}
    (ahead : cursor.peek = some char) :
    cursor.position.offset + char.utf8Size ≤ source.utf8Length := by
  obtain ⟨rest, same⟩ := List.head?_eq_some_iff.mp ahead
  rw [within.offset_eq, ← within.composed, same, Text.utf8Length_append, Text.utf8Length_cons]
  omega

end Within

/-! ## Programs that use a cursor -/

/-- What a program does with a cursor: it makes a call, looks at what is ahead, keeps a copy, or goes
on from a copy that it kept. -/
inductive Operation : Type 1 where
  | call (made : Call)
  | peek
  | peekAhead (count : Nat)
  | rest
  | save
  | restore (index : Nat)

structure Session where
  cursor : Cursor
  saved : List Cursor

namespace Session

def ofText (source : Text) : Session := ⟨.ofText source, []⟩

def operate (session : Session) : Operation → Session
  | .call made => { session with cursor := session.cursor.call made }
  | .peek | .peekAhead _ | .rest => session
  | .save => { session with saved := session.cursor :: session.saved }
  | .restore index => { session with cursor := session.saved.getD index session.cursor }

def operateAll (session : Session) (operations : List Operation) : Session :=
  operations.foldl operate session

structure Within (source : Text) (session : Session) : Prop where
  cursor : session.cursor.Within source
  saved : ∀ kept ∈ session.saved, kept.Within source

variable {source : Text} {session : Session}

theorem within_ofText (source : Text) : Within source (ofText source) where
  cursor := Cursor.within_ofText source
  saved := by
    intro kept member
    contradiction

theorem Within.operate (within : Within source session) (operation : Operation) :
    Within source (session.operate operation) := by
  cases operation with
  | call made => exact ⟨within.cursor.call made, within.saved⟩
  | peek => exact within
  | peekAhead count => exact within
  | rest => exact within
  | save =>
    refine ⟨within.cursor, ?_⟩
    intro kept member
    rcases List.mem_cons.mp member with rfl | earlier
    · exact within.cursor
    · exact within.saved kept earlier
  | restore index =>
    refine ⟨?_, within.saved⟩
    simp only [Session.operate, List.getD_eq_getElem?_getD]
    cases found : session.saved[index]? with
    | none => exact within.cursor
    | some kept => exact within.saved kept (List.mem_of_getElem? found)

theorem Within.operateAll (within : Within source session) (operations : List Operation) :
    Within source (session.operateAll operations) := by
  induction operations generalizing session with
  | nil => exact within
  | cons operation operations ih => exact ih (within.operate operation)

end Session

/-- Whether nothing can go wrong at a cursor of a source with counters of a number of bits: every slice
that the cursor or a reader takes is there, the next step does not make a counter run over, and a
slice that is asked for otherwise is refused only for its beginning. -/
structure SafeAt (width : Nat) (source : Text) (cursor : Cursor) : Prop where
  inside : cursor.position.offset ≤ source.utf8Length
  boundary : source.IsBoundary cursor.position.offset
  line : 1 ≤ cursor.position.line ∧ cursor.position.line ≤ cursor.position.offset + 1
  column : 1 ≤ cursor.position.column ∧ cursor.position.column ≤ cursor.position.offset + 1
  counters : ∀ char, cursor.peek = some char →
    cursor.position.offset + char.utf8Size < 2 ^ width ∧ cursor.position.line + 1 < 2 ^ width ∧
      cursor.position.column + 1 < 2 ^ width
  ahead : source.slice cursor.position.offset source.utf8Length = some cursor.rest
  lexeme : ∀ config,
    (cursor.nextItem config).1.start.offset ≤ (cursor.nextItem config).2.position.offset ∧
    source.IsBoundary (cursor.nextItem config).1.start.offset ∧
    source.IsBoundary (cursor.nextItem config).2.position.offset ∧
    (cursor.nextItem config).2.sliceFrom (cursor.nextItem config).1.start.offset =
      some (cursor.nextItem config).1.text
  refused : ∀ offset, cursor.sliceFrom offset = none ↔
    cursor.position.offset < offset ∨ source.InsideChar offset
  sliced : ∀ offset text, cursor.sliceFrom offset = some text ↔
    ∃ before : Text, source = before ++ (text ++ cursor.rest) ∧ offset = before.utf8Length

theorem Within.safeAt {width : Nat} {source : Text} (fits : 2 * source.utf8Length < 2 ^ width)
    {cursor : Cursor} (within : Within source cursor) : SafeAt width source cursor where
  inside := within.isBoundary.le_utf8Length
  boundary := within.isBoundary
  line := within.line_le
  column := within.column_le
  counters := by
    intro char ahead
    have bytes := within.offset_add_le ahead
    have size := char.utf8Size_pos
    have line := within.line_le.2
    have column := within.column_le.2
    omega
  ahead := within.slice_rest
  lexeme := by
    intro config
    have behind : Within source (cursor.nextItem config).2 := within.call (.nextItem config)
    have sliced := within.sliceFrom_nextItem config
    rw [behind.sliceFrom_eq] at sliced
    obtain ⟨before, rest, same, start, stop⟩ := Text.slice_eq_some_iff.mp sliced
    rw [Text.utf8Length_append] at stop
    exact ⟨by omega, ⟨before, _, same, start⟩, behind.isBoundary, within.sliceFrom_nextItem config⟩
  refused := by
    intro offset
    rw [within.sliceFrom_eq]
    exact Text.slice_eq_none_iff within.isBoundary
  sliced := by
    intro offset text
    rw [within.sliceFrom_eq, Text.slice_eq_some_iff]
    constructor
    · rintro ⟨before, behind, same, start, stop⟩
      have composed := within.composed
      rw [same, ← List.append_assoc] at composed
      obtain ⟨-, rest⟩ := Text.append_inj_of_utf8Length_eq composed (within.offset_eq.symm.trans stop)
      exact ⟨before, by rw [same, rest], start⟩
    · rintro ⟨before, same, start⟩
      refine ⟨before, cursor.rest, same, start, ?_⟩
      have composed := within.composed
      rw [same, ← List.append_assoc] at composed
      rw [within.offset_eq, List.append_cancel_right composed]

/-- If a source takes less than half of the range of a word, whatever a program does with cursors of
the source, its cursor is safe, and so are all that it passes when it is moved on. -/
theorem safeAt_operateAll (width : Nat) (source : Text) (fits : 2 * source.utf8Length < 2 ^ width)
    (operations : List Operation) (count : Nat) :
    SafeAt width source (advanceBy count ((Session.ofText source).operateAll operations).cursor) := by
  have within := (Session.within_ofText source).operateAll operations
  exact (within.cursor.advanceBy count).safeAt fits

/-- The operations copy a cursor behind the two bytes of the first character, read a string that is not
closed, and go on from the copy with a test that passes one character. -/
theorem safeAt_operateAll_copy :
    2 * Text.utf8Length ['é', '"', 'x', '\\'] < 2 ^ 64 ∧
    SafeAt 64 ['é', '"', 'x', '\\'] (advanceBy 1 ((Session.ofText ['é', '"', 'x', '\\']).operateAll
      [.call .advance, .save, .call (.nextItem .default), .restore 0, .peekAhead 1,
        .call (.advanceWhile (fun left _ => (decide (0 < left), left - 1)) 1)]).cursor) :=
  have fits : 2 * Text.utf8Length ['é', '"', 'x', '\\'] < 2 ^ 64 := by decide
  ⟨fits, safeAt_operateAll 64 _ fits _ 1⟩

/-- The cursor behind `é` and a quotation mark gives back both or the mark, and refuses to cut `é`. -/
example : (List.range 5).map (advanceBy 2 (ofText ['é', '"', 'x'])).sliceFrom =
    [some ['é', '"'], none, some ['"'], some [], none] := by
  decide

end Cursor

end Munch
