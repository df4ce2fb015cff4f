import Mathlib.Data.List.Basic
import Munch.Proofs.Pass

/-! # Where a string ends

The reader of a string goes from left to right and joins every backslash with the character behind
it. Seen from a quotation mark, only the backslashes directly before it count: they pair off among
themselves if their number is even, and otherwise the last one escapes the mark. So the first mark
behind an even number of them closes the string, if it stands before the end of the line. -/
set_option autoImplicit false

namespace Munch

namespace StringLiteral

def trailingBackslashes (text : Text) : Nat := (text.reverse.takeWhile (· == '\\')).length

/-- Whether a quotation mark stands at an index, with an even number of backslashes directly before
it. -/
def ClosesAt (inside : Text) (index : Nat) : Prop :=
  inside[index]? = some '"' ∧ trailingBackslashes (inside.take index) % 2 = 0

structure ClosesFirst (inside : Text) (index : Nat) : Prop where
  closes : ClosesAt inside index
  least : ∀ other, ClosesAt inside other → index ≤ other

theorem trailingBackslashes_append (first second : Text) :
    trailingBackslashes (first ++ second) =
      if trailingBackslashes second = second.length then second.length + trailingBackslashes first
      else trailingBackslashes second := by
  rw [trailingBackslashes, List.reverse_append, List.takeWhile_append, apply_ite List.length,
    List.length_append, List.length_reverse]
  rfl

/-- The backslashes at the end of an element pair off. -/
theorem Element.even_trailingBackslashes (element : Element) :
    trailingBackslashes element.text % 2 = 0 := by
  cases element with
  | plain char free => simp [Element.text, trailingBackslashes, free.2.1]
  | escape char inLine =>
    by_cases backslash : char = '\\'
    · simp [Element.text, trailingBackslashes, backslash]
    · simp [Element.text, trailingBackslashes, backslash]

/-- An element before a text does not change whether the backslashes at its end pair off. -/
theorem Element.trailingBackslashes_append (element : Element) (front : Text) :
    trailingBackslashes (element.text ++ front) % 2 = trailingBackslashes front % 2 := by
  have paired := element.even_trailingBackslashes
  rw [StringLiteral.trailingBackslashes_append]
  split <;> omega

/-- No mark closes within an element. -/
theorem Element.not_closesAt (element : Element) {behind : Text} {index : Nat}
    (within : index < element.text.length) : ¬ ClosesAt (element.text ++ behind) index := by
  rintro ⟨mark, even⟩
  cases element with
  | plain char free =>
    obtain rfl : index = 0 := Nat.lt_one_iff.mp within
    exact free.1 (Option.some.inj mark)
  | escape char inLine =>
    have cases : index = 0 ∨ index = 1 := by
      simp only [Element.text, List.length_cons, List.length_nil] at within
      omega
    rcases cases with rfl | rfl
    · exact absurd (Option.some.inj mark) (by decide)
    · exact absurd even (by simp [Element.text, trailingBackslashes])

theorem Element.closesAt_append (element : Element) (behind : Text) (index : Nat) :
    ClosesAt (element.text ++ behind) index ↔
      element.text.length ≤ index ∧ ClosesAt behind (index - element.text.length) := by
  rcases Nat.lt_or_ge index element.text.length with within | later
  · constructor
    · intro closes
      exact absurd closes (element.not_closesAt within)
    · rintro ⟨later, -⟩
      omega
  · simp only [ClosesAt, List.getElem?_append_right later, List.take_append,
      List.take_of_length_le later, element.trailingBackslashes_append, later, true_and]

/-- In a text that begins with elements, a mark closes exactly where it closes behind them. -/
theorem closesAt_written_append (elements : List Element) (behind : Text) (index : Nat) :
    ClosesAt (written elements ++ behind) index ↔
      (written elements).length ≤ index ∧ ClosesAt behind (index - (written elements).length) := by
  induction elements generalizing index with
  | nil => simp
  | cons element rest ih =>
    rw [written_cons, List.append_assoc, element.closesAt_append, ih, List.length_append,
      Nat.sub_sub]
    constructor
    · rintro ⟨first, more, closes⟩
      exact ⟨by omega, closes⟩
    · rintro ⟨all, closes⟩
      exact ⟨by omega, by omega, closes⟩

theorem closesFirst_written (elements : List Element) (behind : Text) :
    ClosesFirst (written elements ++ '"' :: behind) (written elements).length where
  closes := by
    rw [closesAt_written_append, Nat.sub_self]
    exact ⟨Nat.le_refl _, rfl, rfl⟩
  least := by
    intro other closes
    exact ((closesAt_written_append elements _ other).mp closes).1

/-- No mark closes within a body that is not closed. -/
theorem OpenBody.length_le_of_closesAt {inside : Text} (isOpen : OpenBody inside) {behind : Text}
    {index : Nat} (closes : ClosesAt (inside ++ behind) index) : inside.length ≤ index := by
  cases isOpen with
  | whole elements => exact ((closesAt_written_append elements behind index).mp closes).1
  | hanging elements =>
    rw [List.append_assoc, closesAt_written_append] at closes
    obtain ⟨later, mark, -⟩ := closes
    rw [List.length_append, List.length_singleton]
    by_contra near
    have here : index - (written elements).length = 0 := by omega
    rw [here] at mark
    exact absurd (Option.some.inj mark) (by decide)

theorem ClosesFirst.unique {inside : Text} {first second : Nat} (one : ClosesFirst inside first)
    (other : ClosesFirst inside second) : first = second :=
  Nat.le_antisymm (one.least second other.closes) (other.least first one.closes)

theorem idxOf_newline {body behind : Text} (inLine : '\n' ∉ body)
    (stops : behind.begins (· != '\n') = false) : (body ++ behind).idxOf '\n' = body.length := by
  rw [List.idxOf_append_of_notMem inLine]
  rcases Text.begins_ne_eq_false_iff.mp stops with rfl | ⟨rest, rfl⟩
  · rfl
  · rw [List.idxOf_cons_self]
    rfl

/-! ## The reading up to the closing mark -/

/-- A string is closed by the first mark that closes, if that stands in the line. -/
theorem read_of_closesFirst {inside : Text} {index : Nat} (first : ClosesFirst inside index)
    (inLine : index < inside.idxOf '\n') : read inside = .closed (inside.take index) := by
  cases afterMark inside with
  | closed elements behind =>
    obtain rfl := first.unique (closesFirst_written elements behind)
    rw [read_closed, List.take_left]
  | unclosed isOpen stops =>
    have outside := isOpen.length_le_of_closesAt first.closes
    rw [idxOf_newline isOpen.newline_not_mem stops] at inLine
    omega

/-- A string in whose line no mark closes is the whole line. -/
theorem read_of_not_closesFirst {inside : Text}
    (isOpen : ∀ index, ClosesFirst inside index → inside.idxOf '\n' ≤ index) :
    read inside = .unterminated (inside.take (inside.idxOf '\n')) := by
  cases afterMark inside with
  | closed elements behind =>
    have late := isOpen _ (closesFirst_written elements behind)
    have apart := newline_not_mem_written elements
    rw [List.idxOf_append_of_notMem apart, List.idxOf_cons_ne _ (by decide)] at late
    omega
  | unclosed body stops =>
    rw [read_unterminated body stops, idxOf_newline body.newline_not_mem stops, List.take_left]

end StringLiteral

/-! ## The item at an opening mark -/

open StringLiteral

theorem Cursor.nextItem_of_mark (config : Config) {cursor : Cursor} {inside : Text}
    (standing : cursor.rest = '"' :: inside) :
    cursor.nextItem config =
      ((Lexeme.ofString inside).between cursor.position
        (cursor.position.after (Lexeme.ofString inside).text),
      cursor.advanceBy (Lexeme.ofString inside).text.length) := by
  have visible : cursor.rest.begins isWhitespace = false := by
    rw [standing]
    rfl
  rw [cursor.nextItem_visible config visible, standing, Lexeme.atFront_string]

/-- Whether the item of a cursor at an opening mark, and the cursor behind it, are those that the
closing marks of the text behind the mark and its first line feed ask for. -/
structure Cursor.EndsString (config : Config) (cursor : Cursor) (inside : Text) : Prop where
  closed : ∀ index, ClosesFirst inside index → index < inside.idxOf '\n' →
    cursor.nextItem config =
        (.token ⟨.string (decode (inside.take index)), '"' :: inside.take (index + 1),
          cursor.position, cursor.position.after ('"' :: inside.take (index + 1))⟩,
        cursor.advanceBy (index + 2)) ∧
      (cursor.advanceBy (index + 2)).rest = inside.drop (index + 1)
  unterminated : (∀ index, ClosesFirst inside index → inside.idxOf '\n' ≤ index) →
    cursor.nextItem config =
        (.error ⟨.unterminatedString, cursor.position, '"' :: inside.take (inside.idxOf '\n')⟩,
        cursor.advanceBy (inside.idxOf '\n' + 1)) ∧
      (cursor.advanceBy (inside.idxOf '\n' + 1)).rest = inside.drop (inside.idxOf '\n') ∧
      (inside.drop (inside.idxOf '\n') = [] ∨
        ∃ later, inside.drop (inside.idxOf '\n') = '\n' :: later)
  hanging : ∀ before behind, inside = before ++ '\\' :: behind → '\n' ∉ before →
    (behind = [] ∨ ∃ later, behind = '\n' :: later) →
    (∀ index, ClosesFirst inside index → before.length < index) →
    (cursor.nextItem config).1 =
        .error ⟨.unterminatedString, cursor.position, '"' :: (before ++ ['\\'])⟩ ∧
      (cursor.nextItem config).2.rest = behind

/-- Under every configuration, a cursor at an opening mark reads up to the first mark that closes, or
to the end of the line if no mark in it closes. -/
theorem endsString_of_mark (config : Config) {cursor : Cursor} {inside : Text}
    (standing : cursor.rest = '"' :: inside) : cursor.EndsString config inside := by
  have item := cursor.nextItem_of_mark config standing
  have unterminated : (∀ index, ClosesFirst inside index → inside.idxOf '\n' ≤ index) →
      cursor.nextItem config =
        (.error ⟨.unterminatedString, cursor.position, '"' :: inside.take (inside.idxOf '\n')⟩,
        cursor.advanceBy (inside.idxOf '\n' + 1)) := by
    intro isOpen
    rw [item, Lexeme.ofString, read_of_not_closesFirst isOpen]
    simp [Lexeme.between, Reading.text, List.idxOf_le_length]
  constructor
  case closed =>
    intro index first inLine
    have mark := first.closes.1
    have lexeme : inside.take (index + 1) = inside.take index ++ ['"'] := by
      rw [List.take_add_one, mark]
      rfl
    have shorter : index < inside.length := (List.getElem?_eq_some_iff.mp mark).1
    refine ⟨?_, ?_⟩
    · rw [item, Lexeme.ofString, read_of_closesFirst first inLine, lexeme]
      simp [Lexeme.between, Reading.text, Nat.min_eq_left (Nat.le_of_lt shorter)]
    · rw [Cursor.rest_advanceBy, standing]
      rfl
  case unterminated =>
    intro isOpen
    refine ⟨unterminated isOpen, ?_, ?_⟩
    · rw [Cursor.rest_advanceBy, standing]
      rfl
    · obtain ⟨line, later, rfl, inLine, stops⟩ := Text.exists_span_ne '\n' inside
      rw [idxOf_newline inLine stops, List.drop_left]
      exact Text.begins_ne_eq_false_iff.mp stops
  case hanging =>
    rintro before behind rfl inLine ends isOpen
    have whole : before ++ '\\' :: behind = (before ++ ['\\']) ++ behind := by simp
    have noFeed : '\n' ∉ before ++ ['\\'] := by simp [inLine]
    have line : (before ++ '\\' :: behind).idxOf '\n' = (before ++ ['\\']).length := by
      rw [whole, idxOf_newline noFeed (Text.begins_ne_eq_false_iff.mpr ends)]
    have given := unterminated fun index first => by
      rw [line, List.length_append]
      exact isOpen index first
    rw [given, line, Cursor.rest_advanceBy, standing, whole, List.take_left]
    exact ⟨rfl, List.drop_left⟩

/-- Behind the opening mark of `"a\\\"b\\\\" c`, the mark behind one backslash does not close, and that
behind two does. -/
theorem endsString_of_mark_escapes :
    (Cursor.ofText ['"', 'a', '\\', '"', 'b', '\\', '\\', '"', ' ', 'c']).rest =
        '"' :: ['a', '\\', '"', 'b', '\\', '\\', '"', ' ', 'c'] ∧
      (Cursor.ofText ['"', 'a', '\\', '"', 'b', '\\', '\\', '"', ' ', 'c']).EndsString .default
        ['a', '\\', '"', 'b', '\\', '\\', '"', ' ', 'c'] ∧
      ClosesFirst ['a', '\\', '"', 'b', '\\', '\\', '"', ' ', 'c'] 6 :=
  ⟨rfl, endsString_of_mark .default rfl,
    closesFirst_written [.plain 'a' (by decide), .escape '"' (by decide), .plain 'b' (by decide),
      .escape '\\' (by decide)] [' ', 'c']⟩

end Munch
