import Munch.Proofs.Partition
import Munch.Proofs.Termination

/-! # What a stream keeps account of

Between two calls a stream holds a report, a number of tokens and whether it has closed. All three are
accounts of the items that it has given out so far, so they can be read off the items of its source
at every point of a pass. Collecting a stream takes the tokens from that point on, but its report is
that of the whole pass. -/
set_option autoImplicit false

namespace Munch

def Item.isCounted : Item → Bool
  | .token found => !found.isEnd
  | .error _ => false

namespace Stream

def answers (stream : Stream) : Nat → List (Option Item)
  | 0 => []
  | calls + 1 => stream.next.1 :: stream.next.2.answers calls

/-- Calls give the items that a stream still has, and nothing behind them. -/
theorem answers_eq (stream : Stream) (calls : Nat) : stream.answers calls =
    (stream.items.take calls).map some ++ List.replicate (calls - stream.items.length) none := by
  induction calls generalizing stream with
  | zero => simp [answers]
  | succ calls ih =>
    rw [answers, fst_next, ih, items_snd_next]
    cases stream.items with
    | nil => simp [List.replicate_succ]
    | cons item rest => simp

/-! ## Accounts of items -/

/-- Whether a stream accounts for items that were taken since it was another one. -/
structure Accounts (before : Stream) (taken : List Item) (behind : Stream) : Prop where
  errors : behind.report.errors = before.report.errors ++ taken.filterMap Item.error?
  produced : behind.produced = before.produced + taken.countP Item.isCounted
  finished : behind.finished = (before.finished || taken.any Item.isEnd)

theorem Accounts.refl (stream : Stream) : stream.Accounts [] stream where
  errors := (List.append_nil _).symm
  produced := rfl
  finished := (Bool.or_false _).symm

theorem Accounts.trans {before between behind : Stream} {taken more : List Item}
    (first : before.Accounts taken between) (second : between.Accounts more behind) :
    before.Accounts (taken ++ more) behind where
  errors := by
    rw [second.errors, first.errors, List.filterMap_append, List.append_assoc]
  produced := by
    rw [second.produced, first.produced, List.countP_append, Nat.add_assoc]
  finished := by
    rw [second.finished, first.finished, List.any_append, Bool.or_assoc]

theorem accounts_give (stream : Stream) (item : Item) (behind : Cursor) :
    stream.Accounts [item] (stream.give item behind) where
  errors := by
    rw [errors_give]
    cases item <;> rfl
  produced := by
    cases item with
    | error error => rfl
    | token token => cases closes : token.isEnd <;> simp [give, Item.isCounted, closes]
  finished := by
    cases item with
    | error error => simp [give, Item.isEnd]
    | token token => cases closes : token.isEnd <;> simp [give, Item.isEnd, closes]

/-- One call accounts for the item that it gives. -/
theorem accounts_next (stream : Stream) :
    stream.Accounts stream.next.1.toList stream.next.2 := by
  cases finished : stream.finished with
  | true =>
    rw [next_finished finished]
    exact Accounts.refl stream
  | false =>
    rw [next, finished]
    exact accounts_give stream _ _

/-- Calls account for the items that they give. -/
theorem accounts_after (stream : Stream) (calls : Nat) :
    stream.Accounts (stream.items.take calls) (stream.after calls) := by
  induction calls with
  | zero => exact Accounts.refl stream
  | succ calls ih =>
    have one := (stream.after calls).accounts_next
    rw [next_after] at one
    rw [List.take_add_one]
    exact ih.trans one

/-- A stream is collected to the tokens that it still has, and to all errors of its pass. -/
theorem collect_after (stream : Stream) (calls : Nat) :
    (stream.after calls).collect.tokens = (stream.items.drop calls).filterMap Item.token? ∧
      (stream.after calls).collect.report.errors =
        stream.report.errors ++ stream.items.filterMap Item.error? := by
  obtain ⟨items, errors⟩ := drainFrom_eq (stream.after calls) []
  rw [List.reverse_nil, List.nil_append, items_after] at items
  rw [items_after, (stream.accounts_after calls).errors, List.append_assoc,
    ← List.filterMap_append, List.take_append_drop] at errors
  exact ⟨congrArg (List.filterMap Item.token?) items, errors⟩

end Stream

/-! ## Errors follow one another -/

/-- Behind an item that is not the last one, all items begin at later bytes. -/
theorem pairwise_start_lt (config : Config) (source : Text) :
    (tokenize config source).Pairwise fun first second =>
      first.isEnd = false → first.span.1 < second.span.1 := by
  rw [tokenize_eq_itemsFrom]
  refine (pairwise_itemsFrom config .start source).imp_of_mem ?_
  intro first second member _ ordered inner
  obtain ⟨_, _, -, span, visible, -⟩ := exists_location config .start source member
  have bytes := Text.utf8Length_pos (visible inner)
  rw [span] at ordered ⊢
  simp only at ordered ⊢
  omega

theorem pairwise_errors (config : Config) (source : Text) :
    ((tokenize config source).filterMap Item.error?).Pairwise fun first second =>
      first.position.offset < second.position.offset := by
  refine (pairwise_start_lt config source).filterMap Item.error? ?_
  intro first second ordered error found other otherFound
  cases first with
  | token _ => contradiction
  | error _ =>
    cases second with
    | token _ => contradiction
    | error _ =>
      cases found
      cases otherFound
      exact ordered rfl

/-! ## Every point of a pass -/

/-- Whether the books of a stream of a source are right behind a number of calls. -/
structure Bookkeeping (config : Config) (source : Text) (calls : Nat) : Prop where
  answers : (Stream.ofText config source).answers calls =
    ((tokenize config source).take calls).map some ++
      List.replicate (calls - (tokenize config source).length) none
  errors : ((Stream.ofText config source).after calls).report.errors =
    ((tokenize config source).take calls).filterMap Item.error?
  ordered : ((Stream.ofText config source).after calls).report.errors.Pairwise
    fun first second => first.position.offset < second.position.offset
  produced : ((Stream.ofText config source).after calls).produced =
    ((tokenize config source).take calls).countP Item.isCounted
  finished : ((Stream.ofText config source).after calls).finished = true ↔
    ∃ item ∈ (tokenize config source).take calls, item.isEnd = true
  tokens : ((Stream.ofText config source).after calls).collect.tokens =
    ((tokenize config source).drop calls).filterMap Item.token?
  report : ((Stream.ofText config source).after calls).collect.report.errors =
    (tokenize config source).filterMap Item.error?
  fails : ∀ error, .error error ∈ tokenize config source →
    ((Stream.ofText config source).after calls).collect.toResult =
      .error ((Stream.ofText config source).after calls).collect.report
  succeeds : (∀ error, .error error ∉ tokenize config source) →
    ((Stream.ofText config source).after calls).collect.toResult =
      .ok (((tokenize config source).drop calls).filterMap Item.token?)

/-- Under every configuration the books of the stream of every source are right behind any calls. -/
theorem bookkeeping_tokenize (config : Config) (source : Text) (calls : Nat) :
    Bookkeeping config source calls := by
  have items := items_ofText config source
  have fresh : (Stream.ofText config source).report.errors = [] := rfl
  obtain ⟨errors, produced, finished⟩ := (Stream.ofText config source).accounts_after calls
  obtain ⟨tokens, report⟩ := (Stream.ofText config source).collect_after calls
  rw [fresh, List.nil_append, items] at errors report
  rw [items] at produced finished tokens
  constructor
  case answers => rw [Stream.answers_eq, items]
  case errors => exact errors
  case ordered =>
    rw [errors]
    exact (pairwise_errors config source).sublist ((List.take_sublist calls _).filterMap Item.error?)
  case produced =>
    rw [produced]
    exact Nat.zero_add _
  case finished =>
    rw [finished]
    exact List.any_eq_true
  case tokens => exact tokens
  case report => exact report
  case fails =>
    intro error member
    have some : ((Stream.ofText config source).after calls).collect.report.isEmpty = false := by
      rw [← Bool.not_eq_true, Report.isEmpty_iff, report]
      exact List.ne_nil_of_mem (List.mem_filterMap.mpr ⟨_, member, rfl⟩)
    rw [Lexed.toResult, some]
    rfl
  case succeeds =>
    intro clean
    have empty : ((Stream.ofText config source).after calls).collect.report.isEmpty = true := by
      rw [Report.isEmpty_iff, report, List.filterMap_eq_nil_iff]
      intro item member
      cases item with
      | token found => rfl
      | error found => exact absurd member (clean found)
    rw [Lexed.toResult, if_pos empty, tokens]

/-- Behind the first item of `$a` the stream has met its only error and counted nothing, and it is
collected to the tokens behind it. -/
example : ((Stream.ofText .default ['$', 'a']).after 1).report.size = 1 ∧
    ((Stream.ofText .default ['$', 'a']).after 1).produced = 0 ∧
    ((Stream.ofText .default ['$', 'a']).after 1).collect.tokens.map Token.lexeme = [['a'], []] := by
  decide +kernel

/-! ## How collected tokens end -/

/-- Whether tokens end with the one that closes a stream, and hold no other such. -/
def Token.EndsOnce (tokens : List Token) : Prop :=
  ∃ inner closing, tokens = inner ++ [closing] ∧ closing.isEnd = true ∧
    ∀ token ∈ inner, token.isEnd = false

theorem Token.not_endsOnce_nil : ¬ Token.EndsOnce [] := by
  rintro ⟨inner, closing, same, -⟩
  simp at same

/-- Items that the closing one follows have tokens that end with it. -/
theorem Token.endsOnce_filterMap {items : List Item} (inner : ∀ item ∈ items, item.isEnd = false)
    (place : Position) : Token.EndsOnce ((items ++ [Item.closing place]).filterMap Item.token?) := by
  refine ⟨items.filterMap Item.token?, ⟨.endOfInput, [], place, place⟩, ?_, rfl, ?_⟩
  · rw [List.filterMap_append]
    rfl
  · intro token member
    obtain ⟨item, inside, found⟩ := List.mem_filterMap.mp member
    cases item with
    | error _ => contradiction
    | token other =>
      cases found
      exact inner _ inside

/-- As long as the closing item is ahead, a stream is collected to tokens that end with it. -/
theorem endsOnce_collect {config : Config} {source : Text} {calls : Nat}
    (ahead : calls < (tokenize config source).length) :
    Token.EndsOnce ((Stream.ofText config source).after calls).collect.tokens := by
  obtain ⟨tokens, -⟩ := (Stream.ofText config source).collect_after calls
  obtain ⟨items, same, inner⟩ := exists_itemsFrom config .start source
  rw [← tokenize_eq_itemsFrom] at same
  have within : calls ≤ items.length := by
    rw [same, List.length_append, List.length_singleton] at ahead
    omega
  rw [tokens, items_ofText, same, List.drop_append_of_le_length within]
  refine Token.endsOnce_filterMap ?_ _
  intro item member
  exact inner item (List.mem_of_mem_drop member)

/-- Behind the closing item nothing is left to collect. -/
theorem tokens_collect_eq_nil {config : Config} {source : Text} {calls : Nat}
    (passed : (tokenize config source).length ≤ calls) :
    ((Stream.ofText config source).after calls).collect.tokens = [] := by
  obtain ⟨tokens, -⟩ := (Stream.ofText config source).collect_after calls
  rw [tokens, items_ofText, List.drop_of_length_le passed]
  rfl

/-- A source that is lexed as a whole has tokens that end with the closing one. -/
theorem endsOnce_lex (config : Config) (source : Text) :
    Token.EndsOnce (lex config source).tokens := by
  have some := List.length_pos_iff.mpr (itemsFrom_ne_nil config .start source)
  rw [← tokenize_eq_itemsFrom] at some
  exact @endsOnce_collect config source 0 some

/-- Collected tokens end with the closing one, and hold it only there, exactly as long as the stream
has not given it; a stream that has given it is collected to no tokens. -/
theorem endsOnce_collect_iff (config : Config) (source : Text) (calls : Nat) :
    (Token.EndsOnce ((Stream.ofText config source).after calls).collect.tokens ↔
      ((Stream.ofText config source).after calls).finished = false) ∧
    (((Stream.ofText config source).after calls).collect.tokens = [] ↔
      ((Stream.ofText config source).after calls).finished = true) := by
  have passed : ((Stream.ofText config source).after calls).finished = true ↔
      (tokenize config source).length ≤ calls := by
    rw [← Stream.items_eq_nil_iff, Stream.items_after, items_ofText, List.drop_eq_nil_iff]
  rcases Nat.lt_or_ge calls (tokenize config source).length with ahead | behind
  · have ends := endsOnce_collect ahead
    have going : ((Stream.ofText config source).after calls).finished = false := by
      rw [← Bool.not_eq_true, passed]
      omega
    have some : ((Stream.ofText config source).after calls).collect.tokens ≠ [] := by
      intro none
      rw [none] at ends
      exact Token.not_endsOnce_nil ends
    simp [ends, going, some]
  · have none := tokens_collect_eq_nil behind
    simp [none, passed.mpr behind, Token.not_endsOnce_nil]

/-- The stream of an empty source is closed by one call, and then collected to no tokens. -/
theorem not_endsOnce_collect_closed :
    ¬ Token.EndsOnce ((Stream.ofText .default []).after 1).collect.tokens := by
  have none : ((Stream.ofText .default []).after 1).collect.tokens = [] := by decide +kernel
  rw [none]
  exact Token.not_endsOnce_nil

end Munch
