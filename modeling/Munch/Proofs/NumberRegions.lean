import Munch.Proofs.Pass

/-! # The region of a strict number

Read strictly, a number takes a region of the text: characters of names, and dots that stand
directly before a digit. Which characters these are is said by their indices, and in no order of
reading. The reader comes to the same end in three steps, the digits, their fraction, and what is
glued to them, and whether the number is malformed can be seen from the region alone. -/
set_option autoImplicit false

namespace Munch

namespace Number

/-- Whether the character at an index of a text may stand in the region of a number: it is a
character of a name, or a dot directly before an ASCII digit. -/
inductive InRegion (text : Text) (index : Nat) : Prop where
  | name {char : Char} (here : text[index]? = some char)
      (continues : isIdentifierContinue char = true) : InRegion text index
  | dot {next : Char} (here : text[index]? = some '.') (behind : text[index + 1]? = some next)
      (digit : isDigit next = true) : InRegion text index

/-- The longest front of a text of which every character may stand in the region of a number. -/
structure Region (text region : Text) : Prop where
  isPrefix : region <+: text
  inside : ∀ index, index < region.length → InRegion text index
  longest : ∀ other, other <+: text → (∀ index, index < other.length → InRegion text index) →
    other.length ≤ region.length

def IsFractional (text : Text) : Prop :=
  ∃ digits fraction, IsDigits digits ∧ IsDigits fraction ∧ text = digits ++ '.' :: fraction

theorem Region.unique {text first second : Text} (one : Region text first)
    (other : Region text second) : first = second := by
  have fewer := one.longest second other.isPrefix other.inside
  have more := other.longest first one.isPrefix one.inside
  exact (List.prefix_of_prefix_length_le one.isPrefix other.isPrefix more).eq_of_length_le fewer

/-! ## What is glued to a number is its region -/

theorem inRegion_zero_iff {char : Char} {rest : Text} : InRegion (char :: rest) 0 ↔
    (isIdentifierContinue char || startsFraction (char :: rest)) = true := by
  rw [Bool.or_eq_true, startsFraction_iff]
  constructor
  · intro inside
    cases inside with
    | name here continues =>
      cases here
      exact Or.inl continues
    | dot here behind digit =>
      cases here
      refine Or.inr ⟨rest, rfl, ?_⟩
      rw [List.getElem?_cons_succ, ← List.head?_eq_getElem?] at behind
      rw [Text.begins, behind]
      exact digit
  · intro accepted
    rcases accepted with continues | ⟨inside, same, digit⟩
    · exact .name rfl continues
    · cases same
      cases rest with
      | nil => contradiction
      | cons next rest => exact .dot rfl rfl digit

theorem inRegion_succ_iff {char : Char} {rest : Text} {index : Nat} :
    InRegion (char :: rest) (index + 1) ↔ InRegion rest index := by
  constructor
  · intro inside
    cases inside with
    | name here continues => exact .name here continues
    | dot here behind digit => exact .dot here behind digit
  · intro inside
    cases inside with
    | name here continues => exact .name here continues
    | dot here behind digit => exact .dot here behind digit

theorem region_gluedPart (text : Text) : Region text (gluedPart text) := by
  refine ⟨gluedPart_isPrefix text, ?_, ?_⟩
  · induction text with
    | nil =>
      intro index within
      exact absurd within (Nat.not_lt_zero index)
    | cons char rest ih =>
      intro index within
      rw [gluedPart_cons] at within
      split at within
      · rename_i accepted
        cases index with
        | zero => exact inRegion_zero_iff.mpr accepted
        | succ index => exact inRegion_succ_iff.mpr (ih index (Nat.lt_of_succ_lt_succ within))
      · exact absurd within (Nat.not_lt_zero index)
  · induction text with
    | nil =>
      intro other front _
      rw [List.prefix_nil.mp front]
      exact Nat.le_refl 0
    | cons char rest ih =>
      intro other front inside
      cases other with
      | nil => exact Nat.zero_le _
      | cons first other =>
        obtain ⟨rfl, later⟩ := List.cons_prefix_cons.mp front
        have accepted := inRegion_zero_iff.mp (inside 0 (Nat.succ_pos _))
        rw [gluedPart_cons, if_pos accepted]
        apply Nat.succ_le_succ
        apply ih other later
        intro index within
        exact inRegion_succ_iff.mp (inside (index + 1) (Nat.succ_lt_succ within))

/-! ## The reading of a region -/

theorem Reading.Formed.gluedPart_append {reading : Reading} (formed : reading.Formed true)
    {behind : Text} (loose : gluedPart behind = []) :
    gluedPart (reading.text ++ behind) = reading.text := by
  cases formed with
  | plain isPlain => rw [isPlain.gluedPart_append, loose, List.append_nil]
  | malformed _ _ glued _ =>
    rw [Reading.text, Number.gluedPart_append glued, loose, List.append_nil]

/-- Where a digit comes next, a strict reader takes the region and leaves nothing that is glued to
it. -/
theorem exists_region {text : Text} (digit : text.begins isDigit = true) :
    ∃ behind, text = (read true text).text ++ behind ∧ gluedPart behind = [] ∧
      (read true text).Formed true ∧ Region text (read true text).text := by
  obtain ⟨reading, behind, rfl, formed, ends⟩ := exists_read true digit
  have loose := ends.2 rfl
  have region := region_gluedPart (reading.text ++ behind)
  rw [formed.gluedPart_append loose] at region
  rw [read_eq formed ends]
  exact ⟨behind, rfl, loose, formed, region⟩

theorem IsDigits.not_isFractional {text : Text} (isDigits : IsDigits text) :
    ¬ IsFractional text := by
  intro fractional
  obtain ⟨digits, fraction, -, -, rfl⟩ := fractional
  have dot := isDigits.all '.' (by simp)
  contradiction

theorem Reading.Formed.eq_whole {strict : Bool} {reading : Reading}
    (formed : reading.Formed strict) (isDigits : IsDigits reading.text) :
    reading = .whole reading.text := by
  cases formed with
  | plain isPlain =>
    cases isPlain with
    | whole _ => rfl
    | fractional whole fraction =>
      exact absurd ⟨_, _, whole, fraction, rfl⟩ isDigits.not_isFractional
  | malformed _ _ _ noNumber => exact absurd rfl (noNumber _ (.whole isDigits))

theorem Reading.Formed.eq_fractional {strict : Bool} {reading : Reading}
    (formed : reading.Formed strict) (isFractional : IsFractional reading.text) :
    reading = .fractional reading.text := by
  cases formed with
  | plain isPlain =>
    cases isPlain with
    | whole isDigits => exact absurd isFractional isDigits.not_isFractional
    | fractional _ _ => rfl
  | malformed _ _ _ noNumber =>
    obtain ⟨digits, fraction, whole, part, same⟩ := isFractional
    exact absurd same.symm (noNumber _ (.fractional whole part))

theorem Reading.Formed.eq_malformed {strict : Bool} {reading : Reading}
    (formed : reading.Formed strict) (noDigits : ¬ IsDigits reading.text)
    (noFraction : ¬ IsFractional reading.text) : reading = .malformed reading.text := by
  cases formed with
  | plain isPlain =>
    cases isPlain with
    | whole isDigits => exact absurd isDigits noDigits
    | fractional whole fraction => exact absurd ⟨_, _, whole, fraction, rfl⟩ noFraction
  | malformed _ _ _ _ => rfl

end Number

/-! ## The item at a digit -/

open Number

theorem Cursor.nextItem_of_digit (config : Config) {cursor : Cursor}
    (digit : cursor.rest.begins isDigit = true) :
    cursor.nextItem config =
      ((Lexeme.ofReading (read config.strictNumbers cursor.rest)).between cursor.position
        (cursor.position.after (read config.strictNumbers cursor.rest).text),
      cursor.advanceBy (read config.strictNumbers cursor.rest).text.length) := by
  have visible : cursor.rest.begins isWhitespace = false := by
    cases ahead : cursor.rest with
    | nil => rfl
    | cons char rest =>
      rw [ahead] at digit
      have continues := isIdentifierContinue_of_isDigit digit
      exact not_isWhitespace_of_isIdentifierContinue continues
  rw [cursor.nextItem_visible config visible, Lexeme.atFront_number config digit,
    Lexeme.text_ofReading]

/-- Whether the item of a cursor at a digit is the one that a region asks for, and the cursor behind
it stands behind the region. -/
structure Cursor.ReadsRegion (config : Config) (cursor : Cursor) (region : Text) : Prop where
  whole : IsDigits region → cursor.nextItem config =
    (.token ⟨.integer region, region, cursor.position, cursor.position.after region⟩,
      cursor.advanceBy region.length)
  fractional : IsFractional region → cursor.nextItem config =
    (.token ⟨.floating region, region, cursor.position, cursor.position.after region⟩,
      cursor.advanceBy region.length)
  malformed : ¬ IsDigits region → ¬ IsFractional region → cursor.nextItem config =
    (.error ⟨.malformedNumber, cursor.position, region⟩, cursor.advanceBy region.length)
  malformed_iff : (∃ error, (cursor.nextItem config).1 = .error error) ↔
    ¬ IsDigits region ∧ ¬ IsFractional region
  consumed : cursor.rest = region ++ (cursor.nextItem config).2.rest
  loose : ∀ (char : Char) (rest : Text), (cursor.nextItem config).2.rest = char :: rest →
    isIdentifierContinue char = false ∧ (char = '.' → rest.begins isDigit = false)

/-- Read strictly, a cursor at a digit reads the region of the text ahead, of which there is one. -/
theorem readsRegion_of_digit (config : Config) (strict : config.strictNumbers = true)
    {cursor : Cursor} (digit : cursor.rest.begins isDigit = true) :
    ∃ region, Region cursor.rest region ∧ (∀ other, Region cursor.rest other → other = region) ∧
      cursor.ReadsRegion config region := by
  obtain ⟨behind, same, loose, formed, isRegion⟩ := exists_region digit
  have item := cursor.nextItem_of_digit config digit
  rw [strict] at item
  refine ⟨_, isRegion, fun other isOther => isOther.unique isRegion, ?_⟩
  have whole := formed.eq_whole
  have fractional := formed.eq_fractional
  have malformed := formed.eq_malformed
  generalize read true cursor.rest = reading at *
  have left : (cursor.nextItem config).2.rest = behind := by
    rw [item, Cursor.rest_advanceBy, same, List.drop_left]
  constructor
  case whole =>
    intro isDigits
    rw [item, whole isDigits]
    rfl
  case fractional =>
    intro isFractional
    rw [item, fractional isFractional]
    rfl
  case malformed =>
    intro noDigits noFraction
    rw [item, malformed noDigits noFraction]
    rfl
  case malformed_iff =>
    constructor
    · intro failed
      obtain ⟨error, given⟩ := failed
      constructor
      · intro isDigits
        rw [item, whole isDigits] at given
        contradiction
      · intro isFractional
        rw [item, fractional isFractional] at given
        contradiction
    · intro neither
      rw [item, malformed neither.1 neither.2]
      exact ⟨_, rfl⟩
  case consumed =>
    rw [left]
    exact same
  case loose =>
    intro char rest ahead
    rw [left] at ahead
    subst ahead
    obtain ⟨noName, noFraction⟩ := gluedPart_eq_nil_iff.mp loose
    refine ⟨noName, ?_⟩
    intro dot
    subst dot
    rw [← Bool.not_eq_true]
    intro next
    rw [startsFraction_dot next] at noFraction
    contradiction

/-- In `1.2.3x.y` the second dot stands before a digit and the third before a letter. -/
theorem readsRegion_of_digit_malformed :
    (Config.build [.strictNumbers true]).strictNumbers = true ∧
      (Cursor.ofText ['1', '.', '2', '.', '3', 'x', '.', 'y']).rest.begins isDigit = true ∧
      Region (Cursor.ofText ['1', '.', '2', '.', '3', 'x', '.', 'y']).rest
        ['1', '.', '2', '.', '3', 'x'] ∧
      (Cursor.ofText ['1', '.', '2', '.', '3', 'x', '.', 'y']).ReadsRegion
        (.build [.strictNumbers true]) ['1', '.', '2', '.', '3', 'x'] := by
  have isRegion : Region (Cursor.ofText ['1', '.', '2', '.', '3', 'x', '.', 'y']).rest
      ['1', '.', '2', '.', '3', 'x'] := region_gluedPart _
  obtain ⟨region, -, only, reads⟩ := readsRegion_of_digit (.build [.strictNumbers true]) rfl
    (show (Cursor.ofText ['1', '.', '2', '.', '3', 'x', '.', 'y']).rest.begins isDigit = true
      from rfl)
  rw [← only _ isRegion] at reads
  exact ⟨rfl, rfl, isRegion, reads⟩

end Munch
