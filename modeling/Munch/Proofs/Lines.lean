import Munch.Proofs.Seams
import Munch.Proofs.Spans

/-! # Lines

Nothing that is read leaves its line: at a line feed every reader stops just as it does at the end
of a source. So a source is cut line by line, and its items are those of its lines, each moved to
where the line stands. -/
set_option autoImplicit false

namespace Munch

/-! ## No item holds a line feed -/

theorem newline_not_mem_of_isDigits {digits : Text} (isDigits : Number.IsDigits digits) :
    '\n' ∉ digits := by
  intro member
  exact absurd (isDigits.all '\n' member) (by decide)

theorem Lexical.newline_not_mem {config : Config} {kind : Kind} {text : Text}
    (lexical : Lexical config kind text) : '\n' ∉ text := by
  cases lexical with
  | word isWord =>
    cases isWord with
    | intro starts continues =>
      intro member
      rcases List.mem_cons.mp member with rfl | later
      · exact absurd starts (by decide)
      · exact absurd (continues '\n' later) (by decide)
  | integer isDigits => exact newline_not_mem_of_isDigits isDigits
  | floating isDigits isFraction =>
    intro member
    rcases List.mem_append.mp member with whole | later
    · exact newline_not_mem_of_isDigits isDigits whole
    · rcases List.mem_cons.mp later with dot | part
      · exact absurd dot (by decide)
      · exact newline_not_mem_of_isDigits isFraction part
  | string elements =>
    intro member
    rcases List.mem_cons.mp member with mark | later
    · exact absurd mark (by decide)
    · rcases List.mem_append.mp later with inside | mark
      · exact StringLiteral.newline_not_mem_written elements inside
      · exact absurd (List.mem_singleton.mp mark) (by decide)
  | operator symbol => cases symbol <;> decide

theorem Step.newline_not_mem {config : Config} {gap : Text} {lexeme : Lexeme} {behind : Text}
    (step : Step config gap lexeme behind) : '\n' ∉ lexeme.text := by
  have visible := step.visible
  cases step.formed with
  | closing => exact List.not_mem_nil
  | token lexical => exact lexical.newline_not_mem
  | malformed formed =>
    obtain ⟨-, -, glued, -⟩ := formed.malformed_run
    intro member
    rw [← glued] at member
    rcases Number.of_mem_gluedPart member with continues | dot
    · exact absurd continues (by decide)
    · exact absurd dot (by decide)
  | unterminated isOpen =>
    intro member
    rcases List.mem_cons.mp member with mark | inside
    · exact absurd mark (by decide)
    · exact isOpen.newline_not_mem inside
  | illegal nothing =>
    intro member
    rw [← List.mem_singleton.mp member] at visible
    exact absurd (not_isWhitespace_of_leadingTrivia visible) (by decide)

theorem newline_not_mem_text (config : Config) (source : Text) {item : Item}
    (member : item ∈ tokenize config source) : '\n' ∉ item.text := by
  rw [tokenize_eq_itemsFrom] at member
  cases closes : item.isEnd with
  | true =>
    obtain ⟨passed, behind, -, -, -, last⟩ := exists_location config .start source member
    rw [(last closes).1]
    exact List.not_mem_nil
  | false =>
    obtain ⟨passed, gap, lexeme, behind, -, step, same⟩ :=
      exists_of_mem_itemsFrom config .start source member closes
    rw [same, Lexeme.text_between]
    exact step.newline_not_mem

/-! ## A line feed is a seam -/

theorem Step.stopsAt_newline {config : Config} {gap : Text} {lexeme : Lexeme} {rest : Text}
    (step : Step config gap lexeme rest) (behind : Text) :
    lexeme.StopsAt config (rest ++ '\n' :: behind) := by
  by_cases finished : rest = []
  · subst finished
    exact Lexeme.stopsAt_blank config (by decide) behind step.verdict_ne (fun _ => rfl)
  · have head := Text.head?_append finished ('\n' :: behind)
    have noDigit : isDigit '\n' = false := by decide
    have fraction := Number.startsFraction_append_cons finished noDigit behind
    exact (Lexeme.stopsAt_congr config head fraction lexeme).mpr step.stops

theorem leadingTrivia_append_newline {gap : Text} (trivia : leadingTrivia gap = gap)
    (behind : Text) :
    leadingTrivia (gap ++ '\n' :: behind) = gap ++ leadingTrivia ('\n' :: behind) := by
  have before := TriviaBefore.of_closing trivia
  have extended : TriviaBefore ([] ++ '\n' :: behind) gap := before.extend fun _ => rfl
  exact extended.leadingTrivia_append

theorem seam_newline (config : Config) (front behind : Text) :
    Seam config front ('\n' :: behind) where
  closing := by
    intro gap _ trivia
    exact leadingTrivia_append_newline trivia behind
  step := by
    intro gap lexeme rest _ step
    exact step.extend (step.stopsAt_newline behind) fun _ => rfl

theorem Position.start_after_newline (front : Text) :
    (start.after front).advance '\n' =
      start.shift (front.utf8Length + 1) (front.count '\n' + 1) := by
  have bytes := offset_start_after front
  have lines := line_after start front
  have one : start.line = 1 := rfl
  rw [one] at lines
  rw [advance, if_pos rfl, bytes, lines]
  simp only [shift, start, mk.injEq, and_true]
  refine ⟨?_, ?_⟩
  · have size : '\n'.utf8Size = 1 := rfl
    omega
  · omega

theorem tokenize_append_newline (config : Config) (front behind : Text) :
    tokenize config (front ++ '\n' :: behind) = withoutEnd (tokenize config front) ++
      (tokenize config behind).map
        (Item.moved (Position.shift (front.utf8Length + 1) (front.count '\n' + 1))) := by
  have split := itemsFrom_append (seam_newline config front behind) .start
  have later := itemsFrom_blank config (Position.start.after front)
    (rfl : isWhitespace '\n' = true) behind
  simp only [tokenize_eq_itemsFrom]
  rw [split, ← itemsFrom_shift, ← Position.start_after_newline]
  exact congrArg _ later

/-! ## Line by line -/

/-- The items of lines that are read one by one, the first of which has a number of bytes and lines
before it: each line is a source of its own, and its items are moved to where it stands. -/
def linewise (config : Config) (bytes lines : Nat) : List Text → List Item
  | [] => []
  | [line] => (tokenize config line).map (Item.moved (Position.shift bytes lines))
  | line :: next :: rest =>
    (withoutEnd (tokenize config line)).map (Item.moved (Position.shift bytes lines)) ++
      linewise config (bytes + line.utf8Length + 1) (lines + 1) (next :: rest)

theorem Text.split_of_not_mem {separator : Char} {piece : Text} (apart : separator ∉ piece) :
    split separator piece = [piece] := by
  induction piece with
  | nil => rfl
  | cons char rest ih =>
    have different : char ≠ separator := by
      rintro rfl
      exact apart (List.mem_cons_self ..)
    rw [split, if_neg different, ih fun member => apart (List.mem_cons_of_mem _ member)]

theorem Text.split_append {separator : Char} {piece : Text} (apart : separator ∉ piece)
    (rest : Text) : split separator (piece ++ separator :: rest) = piece :: split separator rest := by
  induction piece with
  | nil => rw [List.nil_append, split, if_pos rfl]
  | cons char more ih =>
    have different : char ≠ separator := by
      rintro rfl
      exact apart (List.mem_cons_self ..)
    rw [List.cons_append, split, if_neg different,
      ih fun member => apart (List.mem_cons_of_mem _ member)]

theorem Text.split_ne_nil (separator : Char) (text : Text) : split separator text ≠ [] := by
  obtain ⟨piece, behind, rfl, apart, stops⟩ := exists_span_ne separator text
  rcases begins_ne_eq_false_iff.mp stops with rfl | ⟨rest, rfl⟩
  · rw [List.append_nil, split_of_not_mem apart]
    simp
  · rw [split_append apart]
    simp

theorem Item.moved_shift (bytes lines moreBytes moreLines : Nat) (item : Item) :
    (item.moved (Position.shift bytes lines)).moved (Position.shift moreBytes moreLines) =
      item.moved (Position.shift (moreBytes + bytes) (moreLines + lines)) := by
  have places : ∀ place : Position, (place.shift bytes lines).shift moreBytes moreLines =
      place.shift (moreBytes + bytes) (moreLines + lines) := by
    intro place
    simp only [Position.shift, Position.mk.injEq, and_true]
    omega
  cases item with
  | token found => simp only [moved, places]
  | error found => simp only [moved, LexError.moved, places]

/-- Wherever its first line stands, a source has the items of its lines. -/
theorem map_shift_tokenize (config : Config) (bytes lines : Nat) (source : Text) :
    (tokenize config source).map (Item.moved (Position.shift bytes lines)) =
      linewise config bytes lines (Text.split '\n' source) := by
  induction size : source.length using Nat.strongRecOn generalizing bytes lines source with
  | ind size ih =>
    subst size
    obtain ⟨line, behind, rfl, inLine, stops⟩ := Text.exists_span_ne '\n' source
    -- The first line is the last one, or a line feed and the other lines follow it.
    rcases Text.begins_ne_eq_false_iff.mp stops with rfl | ⟨rest, rfl⟩
    · rw [List.append_nil, Text.split_of_not_mem inLine, linewise]
    · have shorter : rest.length < (line ++ '\n' :: rest).length := by
        rw [List.length_append, List.length_cons]
        omega
      have later := ih rest.length shorter (bytes + line.utf8Length + 1) (lines + 1) rest rfl
      obtain ⟨next, more, pieces⟩ := List.exists_cons_of_ne_nil (Text.split_ne_nil '\n' rest)
      rw [pieces] at later
      rw [Text.split_append inLine, pieces, linewise, ← later, tokenize_append_newline,
        List.count_eq_zero_of_not_mem inLine, List.map_append, List.map_map]
      congr 1
      apply List.map_congr_left
      intro item _
      rw [Function.comp_apply, Item.moved_shift, Nat.zero_add, Nat.add_assoc]

/-- Cutting a source at a line feed cuts its items and its errors, and nothing reaches over. -/
structure LineHomomorphism (config : Config) : Prop where
  items : ∀ first second, tokenize config (first ++ '\n' :: second) =
    withoutEnd (tokenize config first) ++ (tokenize config second).map
      (Item.moved (Position.shift (first.utf8Length + 1) (first.count '\n' + 1)))
  errors : ∀ first second, (lex config (first ++ '\n' :: second)).report.errors =
    (lex config first).report.errors ++ (lex config second).report.errors.map
      (LexError.moved (Position.shift (first.utf8Length + 1) (first.count '\n' + 1)))
  inLine : ∀ source, ∀ item ∈ tokenize config source, '\n' ∉ item.text
  comments : ∀ first second, leadingTrivia first = first →
    leadingTrivia (first ++ '\n' :: second) = first ++ '\n' :: leadingTrivia second
  lines : ∀ source, tokenize config source = linewise config 0 0 (Text.split '\n' source)

/-- Under every configuration a source is read line by line. -/
theorem lineHomomorphism_tokenize (config : Config) : LineHomomorphism config where
  items := tokenize_append_newline config
  errors := by
    intro first second
    rw [errors_lex, errors_lex, errors_lex, tokenize_append_newline, List.filterMap_append,
      errors_withoutEnd, errors_moved]
  inLine := by
    intro source item member
    exact newline_not_mem_text config source member
  comments := by
    intro first second trivia
    rw [leadingTrivia_append_newline trivia, leadingTrivia_blank rfl]
  lines := by
    intro source
    have still : Item.moved (Position.shift 0 0) = id := by
      funext item
      cases item <;> rfl
    rw [← map_shift_tokenize, still, List.map_id]

end Munch
