import Munch.Proofs.Seams
import Munch.Proofs.Spans

/-! # Spacing

The items of a source do not depend on the blanks and comments between them. What was cut from one
source can be laid out again with other gaps, as long as a blank follows every item, and a line feed
a string that was not closed: cut once more, the layout gives the same items at other places. A gap
that begins with a blank also keeps a slash from opening a comment with what comes next. -/
set_option autoImplicit false

namespace Munch

/-! ## Items without their places -/

def Item.toLexeme : Item → Lexeme
  | .token found => ⟨.token found.kind, found.lexeme⟩
  | .error found => ⟨.error found.fault, found.offendingText⟩

@[simp] theorem Lexeme.toLexeme_between (lexeme : Lexeme) (start stop : Position) :
    (lexeme.between start stop).toLexeme = lexeme := by
  obtain ⟨verdict, text⟩ := lexeme
  cases verdict <;> rfl

/-! ## Gaps and layouts -/

inductive ClosedTrivia : Text → Prop where
  | nil : ClosedTrivia []
  | blank {char : Char} {rest : Text} (isBlank : isWhitespace char = true)
      (tail : ClosedTrivia rest) : ClosedTrivia (char :: rest)
  | comment {body rest : Text} (inLine : '\n' ∉ body) (tail : ClosedTrivia rest) :
      ClosedTrivia ('/' :: '/' :: (body ++ '\n' :: rest))

/-- Closed trivia is trivia before every text. -/
theorem ClosedTrivia.before {gap : Text} (closed : ClosedTrivia gap) (behind : Text) :
    TriviaBefore behind gap := by
  induction closed with
  | nil => exact .nil
  | blank isBlank _ ih => exact .blank isBlank ih
  | comment inLine _ ih =>
    apply TriviaBefore.comment inLine
    · rfl
    · exact .blank (by decide) ih

/-- Whether a gap keeps an item apart from what is behind the gap: it begins with a blank, and with
a line feed behind a string that was not closed. -/
structure Parts (item : Item) (gap : Text) : Prop where
  blank : gap.begins isWhitespace = true
  line : item.toLexeme.verdict = .error .unterminatedString → gap.begins (· == '\n') = true

/-- Whether items can be laid out with a gap in front of the first and one behind each: every item
is parted from the next one, the last gap may be empty, and only in the last gap may a comment run
to the end. -/
inductive Spaced : Text → List (Item × Text) → Prop where
  | last {gap : Text} (trivia : TriviaBefore [] gap) : Spaced gap []
  | item {gap next : Text} {item : Item} {rest : List (Item × Text)} (closed : ClosedTrivia gap)
      (parts : Parts item next ∨ next = [] ∧ rest = []) (later : Spaced next rest) :
      Spaced gap ((item, next) :: rest)

def layOut (gap : Text) : List (Item × Text) → Text
  | [] => gap
  | (item, next) :: rest => gap ++ (item.text ++ layOut next rest)

theorem layOut_cons (char : Char) (gap : Text) (pairs : List (Item × Text)) :
    layOut (char :: gap) pairs = char :: layOut gap pairs := by
  cases pairs with
  | nil => rfl
  | cons pair rest => rfl

/-! ## Steps in a layout -/

/-- Behind an item that is parted from the next one comes the end or a blank, and behind a string
that was not closed the end or a line feed. -/
theorem layOut_cases {item : Item} {next : Text} {rest : List (Item × Text)}
    (parts : Parts item next ∨ next = [] ∧ rest = []) : layOut next rest = [] ∨
      ∃ blank behind, layOut next rest = blank :: behind ∧ isWhitespace blank = true ∧
        (item.toLexeme.verdict = .error .unterminatedString → blank = '\n') := by
  rcases parts with ⟨isBlank, line⟩ | ⟨rfl, rfl⟩
  · cases next with
    | nil => contradiction
    | cons blank behind =>
      refine Or.inr ⟨blank, layOut behind rest, layOut_cons blank behind rest, isBlank, ?_⟩
      intro unterminated
      exact beq_iff_eq.mp (line unterminated)
  · exact Or.inl rfl

/-- What was taken from one source is taken from a layout as well. -/
theorem Step.in_layout {config : Config} {gap : Text} {lexeme : Lexeme} {behind : Text}
    (step : Step config gap lexeme behind) {start stop : Position} {otherGap next : Text}
    {rest : List (Item × Text)} (closed : ClosedTrivia otherGap)
    (parts : Parts (lexeme.between start stop) next ∨ next = [] ∧ rest = []) :
    Step config otherGap lexeme (layOut next rest) := by
  have before := closed.before (lexeme.text ++ layOut next rest)
  have behindItem := layOut_cases parts
  rw [Lexeme.toLexeme_between] at behindItem
  rcases behindItem with ends | ⟨blank, more, same, isBlank, line⟩
  · rw [ends] at before ⊢
    exact step.elsewhere before (Lexeme.stopsAt_nil config lexeme) fun _ => rfl
  · rw [same] at before ⊢
    have stops : lexeme.StopsAt config (blank :: more) :=
      Lexeme.stopsAt_blank config isBlank more step.verdict_ne line
    refine step.elsewhere before stops ?_
    intro _
    rw [Text.begins_cons, beq_eq_false_iff_ne]
    rintro rfl
    contradiction

/-! ## Layouts of whole passes -/

theorem itemsFrom_layOut (config : Config) (place other : Position) (text gap : Text)
    (pairs : List (Item × Text))
    (items : pairs.map Prod.fst = withoutEnd (itemsFrom config place text))
    (spaced : Spaced gap pairs) :
    (itemsFrom config other (layOut gap pairs)).map Item.toLexeme =
      (itemsFrom config place text).map Item.toLexeme := by
  induction text using pass_induction config generalizing place other gap pairs with
  | closing lastGap trivia =>
    rw [itemsFrom_closing config place trivia] at items ⊢
    have none : pairs = [] := List.map_eq_nil_iff.mp items
    subst none
    cases spaced with
    | last trivia =>
      rw [layOut, itemsFrom_closing config other (triviaBefore_nil_iff.mp trivia)]
      rfl
  | step firstGap lexeme behind step ih =>
    have inner := step.isEnd_between (place.after firstGap)
      ((place.after firstGap).after lexeme.text)
    rw [itemsFrom_step place step] at items ⊢
    rw [withoutEnd_cons_inner inner] at items
    cases spaced with
    | last _ => cases items
    | @item gap next item rest closed parts later =>
      obtain ⟨rfl, others⟩ := List.cons.inj items
      -- The first item is taken from the layout, and the layout of the others is left.
      have taken := step.in_layout closed parts
      rw [layOut, Lexeme.text_between, itemsFrom_step other taken, List.map_cons, List.map_cons,
        Lexeme.toLexeme_between, Lexeme.toLexeme_between, ih _ _ next rest others later]

/-- The items of a source, laid out with other gaps, are cut to the same items again but for their
places, the closing one included. -/
theorem tokenize_layOut (config : Config) (source gap : Text) (pairs : List (Item × Text))
    (items : pairs.map Prod.fst = withoutEnd (tokenize config source))
    (spaced : Spaced gap pairs) :
    (tokenize config (layOut gap pairs)).map Item.toLexeme =
      (tokenize config source).map Item.toLexeme := by
  rw [tokenize_eq_itemsFrom] at items ⊢
  rw [tokenize_eq_itemsFrom]
  exact itemsFrom_layOut config .start .start source gap pairs items spaced

def openStringPairs : List (Item × Text) :=
  [(.token ⟨.identifier, ['a'], ⟨0, 1, 1⟩, ⟨1, 1, 2⟩⟩, ['\t']),
    (.token ⟨.operator .slash, ['/'], ⟨1, 1, 2⟩, ⟨2, 1, 3⟩⟩, [' ', '/', '/', 'x', '\n']),
    (.error ⟨.unterminatedString, ⟨2, 1, 3⟩, ['"', 'b']⟩, ['\n', '/', '/'])]

/-- Behind a slash a comment begins after a blank, and behind an open string after a line feed. -/
theorem tokenize_layOut_openString :
    openStringPairs.map Prod.fst = withoutEnd (tokenize .default ['a', '/', '"', 'b']) ∧
    Spaced ['/', '/', '\n'] openStringPairs ∧
    (tokenize .default (layOut ['/', '/', '\n'] openStringPairs)).map Item.toLexeme =
      (tokenize .default ['a', '/', '"', 'b']).map Item.toLexeme :=
  have items : openStringPairs.map Prod.fst =
      withoutEnd (tokenize .default ['a', '/', '"', 'b']) := by decide +kernel
  have front : ClosedTrivia ['/', '/', '\n'] := @ClosedTrivia.comment [] [] (by decide) .nil
  have inner : ClosedTrivia ['/', '/', 'x', '\n'] :=
    @ClosedTrivia.comment ['x'] [] (by decide) .nil
  have ending : TriviaBefore [] ['\n', '/', '/'] :=
    .blank rfl (@TriviaBefore.comment [] [] [] (by decide) rfl .nil)
  have spaced : Spaced ['/', '/', '\n'] openStringPairs :=
    .item front (.inl ⟨rfl, fun _ => by contradiction⟩)
      (.item (.blank rfl .nil) (.inl ⟨rfl, fun _ => by contradiction⟩)
        (.item (.blank rfl inner) (.inl ⟨rfl, fun _ => rfl⟩) (.last ending)))
  ⟨items, spaced, tokenize_layOut .default _ _ _ items spaced⟩

end Munch
