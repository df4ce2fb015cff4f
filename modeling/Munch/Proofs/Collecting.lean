import Munch.Proofs.Bookkeeping

/-! # Stopping at the first error, and draining

A pass can be collected in two ways. One takes tokens until an error comes, and leaves the rest of
the source alone. The other takes every item, and hands out the tokens only if the report beside
them is empty. Since the report holds the errors among the items in their order, both succeed on the
same sources with the same tokens, and the error that stops the first is the first in the report of
the second. -/
set_option autoImplicit false

namespace Munch

/-! ## Items up to the first error -/

namespace Item

/-- Items are tokens alone, or there are tokens and then an error at their front. -/
theorem exists_first_error (items : List Item) :
    (∃ tokens : List Token, items = tokens.map .token) ∨
      ∃ (given : List Token) (error : LexError) (rest : List Item),
        items = given.map .token ++ .error error :: rest := by
  induction items with
  | nil => exact Or.inl ⟨[], rfl⟩
  | cons item items ih =>
    cases item with
    | error error => exact Or.inr ⟨[], error, items, rfl⟩
    | token token =>
      rcases ih with ⟨tokens, rfl⟩ | ⟨given, error, rest, rfl⟩
      · exact Or.inl ⟨token :: tokens, rfl⟩
      · exact Or.inr ⟨token :: given, error, rest, rfl⟩

theorem tokensFrom_map (taken tokens : List Token) :
    tokensFrom taken (tokens.map .token) = .ok (taken.reverse ++ tokens) := by
  induction tokens generalizing taken with
  | nil => rw [List.map_nil, tokensFrom, List.append_nil]
  | cons token tokens ih =>
    rw [List.map_cons, tokensFrom, ih, List.reverse_cons, List.append_assoc, List.singleton_append]

theorem tokensFrom_error (taken given : List Token) (error : LexError) (rest : List Item) :
    tokensFrom taken (given.map .token ++ .error error :: rest) = .error error := by
  induction given generalizing taken with
  | nil => rfl
  | cons token given ih => exact ih (token :: taken)

theorem tokens_eq_ok_iff {items : List Item} {tokens : List Token} :
    Item.tokens items = .ok tokens ↔ items = tokens.map .token := by
  constructor
  · intro collected
    rcases exists_first_error items with ⟨all, rfl⟩ | ⟨given, error, rest, rfl⟩
    · rw [Item.tokens, tokensFrom_map] at collected
      cases collected
      rfl
    · rw [Item.tokens, tokensFrom_error] at collected
      cases collected
  · rintro rfl
    exact tokensFrom_map [] tokens

theorem tokens_eq_error_iff {items : List Item} {error : LexError} :
    Item.tokens items = .error error ↔ ∃ (given : List Token) (rest : List Item),
      items = given.map .token ++ .error error :: rest := by
  constructor
  · intro stopped
    rcases exists_first_error items with ⟨all, rfl⟩ | ⟨given, first, rest, rfl⟩
    · rw [Item.tokens, tokensFrom_map] at stopped
      cases stopped
    · rw [Item.tokens, tokensFrom_error] at stopped
      cases stopped
      exact ⟨given, rest, rfl⟩
  · rintro ⟨given, rest, rfl⟩
    exact tokensFrom_error [] given error rest

theorem filterMap_token?_map (tokens : List Token) :
    (tokens.map Item.token).filterMap token? = tokens := by
  rw [List.filterMap_map]
  exact List.filterMap_some

theorem filterMap_error?_map (tokens : List Token) :
    (tokens.map Item.token).filterMap error? = [] := by
  rw [List.filterMap_map]
  exact List.filterMap_eq_nil_iff.mpr fun token _ => rfl

theorem filterMap_error?_eq_nil_iff {items : List Item} :
    items.filterMap error? = [] ↔ ∃ tokens : List Token, items = tokens.map .token := by
  constructor
  · intro none
    rcases exists_first_error items with tokens | ⟨given, error, rest, rfl⟩
    · exact tokens
    · rw [List.filterMap_append, filterMap_error?_map] at none
      contradiction
  · rintro ⟨tokens, rfl⟩
    exact filterMap_error?_map tokens

/-- Every item is a token or an error. -/
theorem length_eq_add (items : List Item) :
    items.length = (items.filterMap token?).length + (items.filterMap error?).length := by
  induction items with
  | nil => rfl
  | cons item items ih =>
    cases item with
    | token token =>
      simp only [List.filterMap_cons, token?, error?, List.length_cons, ih]
      omega
    | error error =>
      simp only [List.filterMap_cons, token?, error?, List.length_cons, ih]
      omega

end Item

/-! ## A stream up to the first error -/

namespace Stream

/-- Calls a stream until it gives an error or nothing. Keeps the tokens behind those taken before,
the latest of which stands first. -/
def tokensFrom (taken : List Token) (stream : Stream) : Except LexError (List Token) × Stream :=
  match given : stream.next with
  | (none, behind) => (.ok taken.reverse, behind)
  | (some (.error error), behind) => (.error error, behind)
  | (some (.token token), behind) =>
    have := remaining_next_lt given
    tokensFrom (token :: taken) behind
termination_by stream.remaining

def untilError (stream : Stream) : Except LexError (List Token) × Stream := tokensFrom [] stream

theorem tokensFrom_eq (stream : Stream) (taken : List Token) : tokensFrom taken stream =
    match stream.next with
    | (none, behind) => (.ok taken.reverse, behind)
    | (some (.error error), behind) => (.error error, behind)
    | (some (.token token), behind) => tokensFrom (token :: taken) behind := by
  rw [tokensFrom]
  split <;> rename_i given <;> simp only [given]

/-- Calls up to the first error give what is found by going through all items. -/
theorem fst_tokensFrom (stream : Stream) (taken : List Token) :
    (tokensFrom taken stream).1 = Item.tokensFrom taken stream.items := by
  induction ahead : stream.items generalizing stream taken with
  | nil =>
    have finished := items_eq_nil_iff.mp ahead
    rw [tokensFrom_eq, next_finished finished, Item.tokensFrom]
  | cons item rest ih =>
    obtain ⟨behind, given, later, -⟩ := next_of_items ahead
    rw [tokensFrom_eq, given]
    cases item with
    | error error => rfl
    | token token => exact ih behind _ later

/-- Where an error stops the calls, that error alone was recorded since they began, and all items
behind it are still to come. -/
theorem snd_tokensFrom {stream : Stream} {given : List Token} {error : LexError} {rest : List Item}
    (taken : List Token) (ahead : stream.items = given.map .token ++ .error error :: rest) :
    (tokensFrom taken stream).2.report.errors = stream.report.errors ++ [error] ∧
      (tokensFrom taken stream).2.items = rest := by
  induction given generalizing stream taken with
  | nil =>
    obtain ⟨behind, called, later, errors⟩ := next_of_items ahead
    rw [tokensFrom_eq, called]
    exact ⟨errors, later⟩
  | cons token given ih =>
    obtain ⟨behind, called, later, errors⟩ := next_of_items ahead
    have unchanged : behind.report.errors = stream.report.errors := by
      rw [errors]
      exact List.append_nil _
    rw [tokensFrom_eq, called, ← unchanged]
    exact ih _ later

end Stream

/-! ## Both ways -/

namespace Lexed

variable {lexed : Lexed}

theorem toResult_eq_ok_iff {tokens : List Token} :
    lexed.toResult = .ok tokens ↔ lexed.report.errors = [] ∧ lexed.tokens = tokens := by
  rw [toResult, ← Report.isEmpty_iff]
  cases lexed.report.isEmpty <;> simp

theorem toResult_eq_error_iff {report : Report} :
    lexed.toResult = .error report ↔ lexed.report.errors ≠ [] ∧ lexed.report = report := by
  rw [toResult, Ne, ← Report.isEmpty_iff]
  cases lexed.report.isEmpty <;> simp

end Lexed

/-- Whether what comes of draining a pass agrees with stopping at its first error. -/
structure CollectedAlike (config : Config) (source : Text) (result : Except Report (List Token)) :
    Prop where
  succeeds : ∀ tokens, tokensOrFirstError config source = .ok tokens ↔ result = .ok tokens
  fails : ∀ error, tokensOrFirstError config source = .error error →
    ∃ (report : Report) (given : List Token) (rest : List Item), result = .error report ∧
      report.errors.head? = some error ∧
      tokenize config source = given.map .token ++ .error error :: rest ∧
      given <+: (lex config source).tokens
  report : ∀ report, result = .error report →
    report.errors = (tokenize config source).filterMap Item.error? ∧
      report.display = List.intercalate ['\n']
        (((tokenize config source).filterMap Item.error?).map LexError.line)
  stops : (Stream.ofText config source).untilError.1 = tokensOrFirstError config source
  left : ∀ (given : List Token) (error : LexError) (rest : List Item),
    tokenize config source = given.map .token ++ .error error :: rest →
      (Stream.ofText config source).untilError.2.report.errors = [error] ∧
        (Stream.ofText config source).untilError.2.items = rest
  count : (tokenize config source).length =
    (lex config source).tokens.length + (lex config source).report.size

theorem collectedAlike_toResult (config : Config) (source : Text) :
    CollectedAlike config source (lex config source).toResult where
  succeeds := by
    intro tokens
    rw [tokensOrFirstError, Item.tokens_eq_ok_iff, Lexed.toResult_eq_ok_iff, errors_lex, tokens_lex]
    constructor
    · intro same
      rw [same]
      exact ⟨Item.filterMap_error?_map tokens, Item.filterMap_token?_map tokens⟩
    · rintro ⟨none, found⟩
      obtain ⟨all, same⟩ := Item.filterMap_error?_eq_nil_iff.mp none
      rw [same, Item.filterMap_token?_map] at found
      rw [same, found]
  fails := by
    intro error stopped
    obtain ⟨given, rest, same⟩ := Item.tokens_eq_error_iff.mp stopped
    have errors := errors_lex config source
    rw [same, List.filterMap_append, Item.filterMap_error?_map, List.nil_append] at errors
    refine ⟨(lex config source).report, given, rest, ?_, ?_, same, ?_⟩
    · rw [Lexed.toResult_eq_error_iff, errors]
      exact ⟨List.cons_ne_nil _ _, rfl⟩
    · rw [errors]
      rfl
    · rw [tokens_lex, same, List.filterMap_append, Item.filterMap_token?_map]
      exact List.prefix_append given _
  report := by
    intro report failed
    obtain ⟨-, rfl⟩ := Lexed.toResult_eq_error_iff.mp failed
    have errors := errors_lex config source
    rw [Report.display, Report.lines, errors]
    exact ⟨rfl, rfl⟩
  stops := by
    rw [Stream.untilError, Stream.fst_tokensFrom, items_ofText]
    rfl
  left := by
    intro given error rest same
    rw [← items_ofText] at same
    exact Stream.snd_tokensFrom [] same
  count := by
    rw [Item.length_eq_add, ← tokens_lex, ← errors_lex, Report.length_errors]

/-- Under every configuration draining a pass agrees with stopping at its first error, and so does
the draining for which no configuration is given. -/
theorem collectedAlike_lex (config : Config) (source : Text) :
    CollectedAlike config source (lex config source).toResult ∧
      CollectedAlike .default source (lexDefault source) :=
  ⟨collectedAlike_toResult config source, collectedAlike_toResult .default source⟩

end Munch
