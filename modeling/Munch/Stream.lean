import Munch.Item

/-! # Streams of items

A stream cuts a source into items one at a time. It keeps the errors met so far and counts the
tokens given out; behind the closing token it gives nothing more and changes no more. Every item
but the closing one takes at least one character, so a stream can be drained. -/
set_option autoImplicit false

namespace Munch

/-- A pass over a source: the cursor, the errors met, the number of tokens given out before the
closing one, and whether that one was given out. -/
structure Stream where
  config : Config
  cursor : Cursor
  report : Report := .empty
  produced : Nat := 0
  finished : Bool := false
deriving DecidableEq

namespace Stream

def ofText (config : Config) (source : Text) : Stream where
  config := config
  cursor := .ofText source

def give (stream : Stream) (item : Item) (behind : Cursor) : Stream :=
  match item with
  | .error error => { stream with cursor := behind, report := stream.report.record error }
  | .token token =>
    if token.isEnd then { stream with cursor := behind, finished := true }
    else { stream with cursor := behind, produced := stream.produced + 1 }

def next (stream : Stream) : Option Item × Stream :=
  if stream.finished then (none, stream)
  else
    let (item, behind) := stream.cursor.skipTrivia.nextItem stream.config
    (some item, stream.give item behind)

def remaining (stream : Stream) : Nat :=
  stream.cursor.rest.length + if stream.finished then 0 else 1

@[simp] theorem cursor_give (stream : Stream) (item : Item) (behind : Cursor) :
    (stream.give item behind).cursor = behind := by
  unfold give
  repeat' split
  all_goals rfl

theorem finished_give_of_isEnd {stream : Stream} {item : Item} {behind : Cursor}
    (closes : item.isEnd = true) : (stream.give item behind).finished = true := by
  cases item with
  | error error => simp [Item.isEnd] at closes
  | token token =>
    have isEnd : token.isEnd = true := closes
    simp [give, isEnd]

theorem remaining_next_lt {stream : Stream} {item : Item} {behind : Stream}
    (given : stream.next = (some item, behind)) : behind.remaining < stream.remaining := by
  cases finished : stream.finished with
  | true => simp [next, finished] at given
  | false =>
    simp only [next, finished, Bool.false_eq_true, if_false, Prod.mk.injEq] at given
    obtain ⟨-, rfl⟩ := given
    have fewer := Cursor.length_rest_skipTrivia_le stream.cursor
    rcases Cursor.nextItem_closes_or_shortens stream.config stream.cursor.skipTrivia with
      ⟨closes, most⟩ | less
    · simp only [remaining, finished_give_of_isEnd closes, cursor_give, finished]
      simp only [if_true, Bool.false_eq_true, if_false]
      omega
    · simp only [remaining, cursor_give, finished, Bool.false_eq_true, if_false]
      split <;> omega

def drainFrom (taken : List Item) (stream : Stream) : List Item × Stream :=
  match given : stream.next with
  | (none, behind) => (taken.reverse, behind)
  | (some item, behind) =>
    have := remaining_next_lt given
    drainFrom (item :: taken) behind
termination_by stream.remaining

def drain (stream : Stream) : List Item × Stream := drainFrom [] stream

def takeFrom (taken : List Item) : Nat → Stream → List Item × Stream
  | 0, stream => (taken.reverse, stream)
  | count + 1, stream =>
    match stream.next with
    | (none, behind) => (taken.reverse, behind)
    | (some item, behind) => takeFrom (item :: taken) count behind

def take (count : Nat) (stream : Stream) : List Item × Stream := takeFrom [] count stream

def nth : Nat → Stream → Option Item × Stream
  | 0, stream => stream.next
  | count + 1, stream =>
    match stream.next with
    | (none, behind) => (none, behind)
    | (some _, behind) => nth count behind

end Stream

end Munch
