import Munch.Proofs.Moves

/-! # Seams between two texts

A pass over `front ++ behind` is a pass over `front` and then one over `behind` if nothing that is
read in `front` looks over the seam. It is enough to ask this of the single steps: `Seam` says it of
every step that a pass over `front` can take, and `itemsFrom_append` follows for whole passes. -/
set_option autoImplicit false

namespace Munch

def withoutEnd (items : List Item) : List Item := items.filter fun item => !item.isEnd

theorem withoutEnd_cons_inner {item : Item} (inner : item.isEnd = false) (rest : List Item) :
    withoutEnd (item :: rest) = item :: withoutEnd rest :=
  List.filter_cons_of_pos (by simp [inner])

theorem withoutEnd_cons_end {item : Item} (closes : item.isEnd = true) (rest : List Item) :
    withoutEnd (item :: rest) = withoutEnd rest :=
  List.filter_cons_of_neg (by simp [closes])

/-- Whether the text behind the seam changes nothing of what is read before it: a gap at the end of
the front joins the gap behind, and a step stays what it is. -/
structure Seam (config : Config) (front behind : Text) : Prop where
  closing : ∀ gap, gap <:+ front → leadingTrivia gap = gap →
    leadingTrivia (gap ++ behind) = gap ++ leadingTrivia behind
  step : ∀ gap lexeme rest, gap ++ (lexeme.text ++ rest) <:+ front →
    Step config gap lexeme rest → Step config gap lexeme (rest ++ behind)

theorem Seam.of_suffix {config : Config} {front behind later : Text}
    (seam : Seam config front behind) (suffix : later <:+ front) : Seam config later behind where
  closing := by
    intro gap inside
    exact seam.closing gap (inside.trans suffix)
  step := by
    intro gap lexeme rest inside
    exact seam.step gap lexeme rest (inside.trans suffix)

theorem itemsFrom_trivia (config : Config) (place : Position) {gap behind : Text}
    (trivia : leadingTrivia (gap ++ behind) = gap ++ leadingTrivia behind) :
    itemsFrom config place (gap ++ behind) = itemsFrom config (place.after gap) behind := by
  have rest : (gap ++ behind).drop (gap ++ leadingTrivia behind).length =
      behind.drop (leadingTrivia behind).length := by
    rw [List.length_append, List.drop_length_add_append]
  rw [itemsFrom_gap config place, trivia, rest, Position.after_append,
    ← itemsFrom_gap config (place.after gap) behind]

theorem itemsFrom_blank (config : Config) (place : Position) {char : Char}
    (isBlank : isWhitespace char = true) (rest : Text) :
    itemsFrom config place (char :: rest) = itemsFrom config (place.advance char) rest :=
  @itemsFrom_trivia config place [char] rest (leadingTrivia_blank isBlank rest)

theorem itemsFrom_append {config : Config} {front behind : Text}
    (seam : Seam config front behind) (place : Position) :
    itemsFrom config place (front ++ behind) =
      withoutEnd (itemsFrom config place front) ++ itemsFrom config (place.after front) behind := by
  induction front using pass_induction config generalizing place with
  | closing gap trivia =>
    rw [itemsFrom_closing config place trivia,
      itemsFrom_trivia config place (seam.closing gap (List.suffix_refl gap) trivia)]
    rfl
  | step gap lexeme rest step ih =>
    have later : rest <:+ gap ++ (lexeme.text ++ rest) := by
      rw [← List.append_assoc]
      exact List.suffix_append (gap ++ lexeme.text) rest
    have whole := seam.step gap lexeme rest (List.suffix_refl _) step
    have inner := step.isEnd_between (place.after gap) ((place.after gap).after lexeme.text)
    have tail := ih (seam.of_suffix later) ((place.after gap).after lexeme.text)
    simp only [List.append_assoc]
    rw [itemsFrom_step place whole, itemsFrom_step place step, tail, withoutEnd_cons_inner inner,
      Position.after_append, Position.after_append, List.cons_append]

/-! ## Steps in other texts -/

/-- A slash that is taken by itself has no slash behind it. -/
theorem Step.apart {config : Config} {gap : Text} {lexeme : Lexeme} {behind : Text}
    (step : Step config gap lexeme behind) (slash : lexeme.text = ['/']) :
    behind.begins (· == '/') = false := by
  have code := not_startsComment_of_leadingTrivia step.visible
  rw [slash] at code
  cases behind with
  | nil => rfl
  | cons char rest =>
    rw [Text.begins_cons, beq_eq_false_iff_ne]
    rintro rfl
    contradiction

/-- What a step takes, it takes behind another gap and before another text as well, if the lexeme
stops there and no slash meets a slash. -/
theorem Step.elsewhere {config : Config} {gap : Text} {lexeme : Lexeme} {behind : Text}
    (step : Step config gap lexeme behind) {otherGap other : Text}
    (before : TriviaBefore (lexeme.text ++ other) otherGap) (stops : lexeme.StopsAt config other)
    (apart : lexeme.text = ['/'] → other.begins (· == '/') = false) :
    Step config otherGap lexeme other where
  trivia := by
    have visible := leadingTrivia_eq_nil_of_append step.visible
    rw [before.leadingTrivia_append, leadingTrivia_append_eq_nil visible step.some apart,
      List.append_nil]
  front := Lexeme.atFront_eq step.formed stops
  some := step.some

/-- A step stays what it is in a longer text if its lexeme stops there and no slash meets a slash. -/
theorem Step.extend {config : Config} {gap : Text} {lexeme : Lexeme} {rest more : Text}
    (step : Step config gap lexeme rest) (stops : lexeme.StopsAt config (rest ++ more))
    (apart : lexeme.text ++ rest = ['/'] → more.begins (· == '/') = false) :
    Step config gap lexeme (rest ++ more) := by
  have some : lexeme.text ++ rest ≠ [] := by simp [step.some]
  refine step.elsewhere ?_ stops ?_
  · rw [← List.append_assoc]
    exact (TriviaBefore.of_leadingTrivia step.trivia).extend fun none => absurd none some
  · intro slash
    by_cases finished : rest = []
    · subst finished
      exact apart (by rw [slash, List.append_nil])
    · rw [Text.begins_append _ finished]
      exact step.apart slash

/-! ## Passes over two texts -/

theorem errors_withoutEnd (items : List Item) :
    (withoutEnd items).filterMap Item.error? = items.filterMap Item.error? := by
  induction items with
  | nil => rfl
  | cons item rest ih =>
    cases closes : item.isEnd with
    | true =>
      have token : item.error? = none := by
        cases item with
        | token found => rfl
        | error found => contradiction
      rw [withoutEnd_cons_end closes, List.filterMap_cons_none token, ih]
    | false =>
      rw [withoutEnd_cons_inner closes, List.filterMap_cons, List.filterMap_cons, ih]

theorem errors_moved (move : Position → Position) (items : List Item) :
    (items.map (Item.moved move)).filterMap Item.error? =
      (items.filterMap Item.error?).map (LexError.moved move) := by
  rw [List.filterMap_map, List.map_filterMap]
  congr 1
  funext item
  exact item.error?_moved move

theorem withoutEnd_moved (move : Position → Position) (items : List Item) :
    withoutEnd (items.map (Item.moved move)) = (withoutEnd items).map (Item.moved move) := by
  rw [withoutEnd, List.filter_map, withoutEnd]
  congr 1
  apply List.filter_congr
  intro item _
  rw [Function.comp_apply, Item.isEnd_moved]

end Munch
