import Munch.Number
import Munch.Proofs.Characters
import Munch.Proofs.Fronts

/-! # What the reader of numbers reads

A plain number is a run of digits, or two of them around a dot. The reader takes exactly the plain
number of `number ++ behind` if `behind` cannot extend it, and every text that begins with a digit
splits in this way. Read strictly, a number takes all that is glued to it, and it is malformed as
soon as anything is. -/
set_option autoImplicit false

namespace Munch.Number

structure IsDigits (text : Text) : Prop where
  some : text ≠ []
  all : ∀ char ∈ text, isDigit char = true

inductive Reading.Plain : Reading → Prop where
  | whole {digits : Text} (isDigits : IsDigits digits) : Plain (.whole digits)
  | fractional {digits fraction : Text} (isDigits : IsDigits digits)
      (isFraction : IsDigits fraction) : Plain (.fractional (digits ++ '.' :: fraction))

def Reading.StopsAt (behind : Text) : Reading → Prop
  | whole _ => behind.begins isDigit = false ∧ startsFraction behind = false
  | fractional _ => behind.begins isDigit = false
  | malformed _ => gluedPart behind = []

theorem startsFraction_iff {text : Text} :
    startsFraction text = true ↔ ∃ rest, text = '.' :: rest ∧ Text.begins isDigit rest = true := by
  constructor
  · intro starts
    unfold startsFraction at starts
    split at starts
    · exact ⟨_, rfl, starts⟩
    · contradiction
  · rintro ⟨rest, rfl, digit⟩
    cases rest with
    | nil => simp at digit
    | cons char rest => exact digit

theorem startsFraction_dot {rest : Text} (digit : rest.begins isDigit = true) :
    startsFraction ('.' :: rest) = true :=
  startsFraction_iff.mpr ⟨rest, rfl, digit⟩

theorem startsFraction_append {text : Text} (some : text ≠ []) (more : text ≠ ['.'])
    (behind : Text) : startsFraction (text ++ behind) = startsFraction text := by
  cases text with
  | nil => exact absurd rfl some
  | cons char rest =>
    cases rest with
    | nil =>
      have different : char ≠ '.' := by
        rintro rfl
        exact more rfl
      simp [startsFraction, different]
    | cons next rest =>
      by_cases dot : char = '.'
      · subst dot
        rfl
      · simp [startsFraction, dot]

theorem startsFraction_append_cons {text : Text} (some : text ≠ []) {char : Char}
    (noDigit : isDigit char = false) (rest : Text) :
    startsFraction (text ++ char :: rest) = startsFraction text := by
  by_cases dot : text = ['.']
  · subst dot
    exact noDigit
  · exact startsFraction_append some dot (char :: rest)

theorem IsDigits.begins {digits : Text} (isDigits : IsDigits digits) (behind : Text) :
    (digits ++ behind).begins isDigit = true := by
  rw [Text.begins_append _ isDigits.some]
  cases digits with
  | nil => exact absurd rfl isDigits.some
  | cons char rest => exact isDigits.all char (List.mem_cons_self ..)

theorem IsDigits.wholePart_append {digits behind : Text} (isDigits : IsDigits digits)
    (stops : behind.begins isDigit = false) : wholePart (digits ++ behind) = digits :=
  Text.takeWhile_append_of_begins isDigits.all stops

theorem fractionPart_eq_nil {text : Text} (stops : startsFraction text = false) :
    fractionPart text = [] := by
  simp [fractionPart, stops]

theorem fractionPart_append {fraction behind : Text} (isFraction : IsDigits fraction)
    (stops : behind.begins isDigit = false) :
    fractionPart ('.' :: (fraction ++ behind)) = '.' :: fraction := by
  rw [fractionPart, if_pos (startsFraction_dot (isFraction.begins behind))]
  simp only [List.drop_succ_cons, List.drop_zero]
  rw [Text.takeWhile_append_of_begins isFraction.all stops]

theorem read_append (strict : Bool) {reading : Reading} (plain : reading.Plain) {behind : Text}
    (stops : reading.StopsAt behind) :
    read strict (reading.text ++ behind) =
      if strict && hasMalformedTail behind then .malformed (reading.text ++ gluedPart behind)
      else reading := by
  cases plain with
  | whole isDigits =>
    rename_i digits
    obtain ⟨noDigit, noFraction⟩ := stops
    have whole := isDigits.wholePart_append noDigit
    simp [read, Reading.text, whole, fractionPart_eq_nil noFraction]
  | fractional isDigits isFraction =>
    rename_i digits fraction
    have noDigit : Text.begins isDigit ('.' :: (fraction ++ behind)) = false := by
      rw [Text.begins_cons]
      decide
    have whole := isDigits.wholePart_append noDigit
    have part := fractionPart_append isFraction stops
    have rest : (digits ++ '.' :: (fraction ++ behind)).drop (digits ++ '.' :: fraction).length =
        behind := by
      rw [← List.cons_append, ← List.append_assoc]
      exact List.drop_left
    simp only [read, Reading.text, List.append_assoc, List.cons_append, whole, List.drop_left, part,
      rest]
    simp

/-- Every text that begins with a digit is a plain number and a text that has no more of it. -/
theorem exists_plain {text : Text} (digit : text.begins isDigit = true) :
    ∃ (reading : Reading) (behind : Text), text = reading.text ++ behind ∧ reading.Plain ∧
      reading.StopsAt behind := by
  obtain ⟨digits, rest, rfl, inside, stops⟩ := Text.exists_span isDigit text
  have isDigits : IsDigits digits := by
    refine ⟨?_, inside⟩
    rintro rfl
    simp [stops] at digit
  cases starts : startsFraction rest with
  | false => exact ⟨.whole digits, rest, rfl, .whole isDigits, stops, starts⟩
  | true =>
    obtain ⟨behind, rfl, next⟩ := startsFraction_iff.mp starts
    obtain ⟨fraction, behind, rfl, within, ends⟩ := Text.exists_span isDigit behind
    have isFraction : IsDigits fraction := by
      refine ⟨?_, within⟩
      rintro rfl
      simp [ends] at next
    refine ⟨.fractional (digits ++ '.' :: fraction), behind, ?_, .fractional isDigits isFraction,
      ends⟩
    simp [Reading.text]

/-! ## What is glued to a number -/

theorem gluedPart_cons (char : Char) (rest : Text) : gluedPart (char :: rest) =
    if isIdentifierContinue char || startsFraction (char :: rest) then char :: gluedPart rest
    else [] := by
  rw [gluedPart, Text.leading_cons, acceptGlued]
  split <;> rename_i accepted <;> split at accepted <;> simp_all [gluedPart]

theorem gluedPart_eq_nil_iff {text : Text} : gluedPart text = [] ↔
    text.begins isIdentifierContinue = false ∧ startsFraction text = false := by
  cases text with
  | nil => exact ⟨fun _ => ⟨rfl, rfl⟩, fun _ => rfl⟩
  | cons char rest =>
    rw [gluedPart_cons, Text.begins_cons]
    cases isIdentifierContinue char <;> cases startsFraction (char :: rest) <;> simp

theorem of_mem_gluedPart {text : Text} {char : Char} (member : char ∈ gluedPart text) :
    isIdentifierContinue char = true ∨ char = '.' := by
  induction text with
  | nil => contradiction
  | cons first rest ih =>
    rw [gluedPart_cons] at member
    split at member
    · rename_i accepted
      rcases List.mem_cons.mp member with rfl | later
      · rw [Bool.or_eq_true] at accepted
        refine accepted.imp_right ?_
        intro starts
        obtain ⟨inside, same, -⟩ := startsFraction_iff.mp starts
        exact (List.cons.inj same).1
      · exact ih later
    · contradiction

theorem hasMalformedTail_eq_false_iff {text : Text} :
    hasMalformedTail text = false ↔ gluedPart text = [] := by
  rw [gluedPart_eq_nil_iff]
  cases text with
  | nil => exact ⟨fun _ => ⟨rfl, rfl⟩, fun _ => rfl⟩
  | cons char rest =>
    by_cases dot : char = '.'
    · subst dot
      have outside : isIdentifierContinue '.' = false := by decide
      simp [hasMalformedTail, outside]
    · have noFraction : startsFraction (char :: rest) = false := by
        simp [startsFraction, dot]
      simp [hasMalformedTail, dot, noFraction]

theorem gluedPart_digits {digits : Text} (inside : ∀ char ∈ digits, isDigit char = true)
    (behind : Text) : gluedPart (digits ++ behind) = digits ++ gluedPart behind := by
  induction digits with
  | nil => rfl
  | cons char rest ih =>
    have continues := isIdentifierContinue_of_isDigit (inside char (List.mem_cons_self ..))
    rw [List.cons_append, gluedPart_cons, continues,
      ih fun c member => inside c (List.mem_cons_of_mem _ member)]
    rfl

theorem Reading.Plain.gluedPart_append {reading : Reading} (plain : reading.Plain)
    (behind : Text) : gluedPart (reading.text ++ behind) = reading.text ++ gluedPart behind := by
  cases plain with
  | whole isDigits => exact gluedPart_digits isDigits.all behind
  | fractional isDigits isFraction =>
    simp only [Reading.text, List.append_assoc, List.cons_append]
    rw [gluedPart_digits isDigits.all, gluedPart_cons,
      startsFraction_dot (isFraction.begins behind), gluedPart_digits isFraction.all]
    simp

/-- A run that is glued throughout stays so in front of any text: a dot in it has its digit. -/
theorem gluedPart_append {run : Text} (glued : gluedPart run = run) (behind : Text) :
    gluedPart (run ++ behind) = run ++ gluedPart behind := by
  induction run with
  | nil => rfl
  | cons char rest ih =>
    rw [gluedPart_cons] at glued
    split at glued
    · rename_i accepted
      simp only [List.cons.injEq, true_and] at glued
      have kept : (isIdentifierContinue char || startsFraction (char :: rest ++ behind)) = true := by
        rw [startsFraction_append (by simp) ?_ behind]
        · exact accepted
        · rintro lone
          simp only [List.cons.injEq] at lone
          obtain ⟨rfl, rfl⟩ := lone
          exact absurd accepted (by decide)
      rw [List.cons_append] at kept ⊢
      rw [gluedPart_cons, if_pos kept, ih glued]
      rfl
    · contradiction

theorem glued_of_suffix {run rest : Text} (suffix : rest <:+ run)
    (glued : gluedPart run = run) : gluedPart rest = rest := by
  obtain ⟨front, rfl⟩ := suffix
  induction front with
  | nil => exact glued
  | cons char front ih =>
    rw [List.cons_append, gluedPart_cons] at glued
    split at glued
    · exact ih (List.cons.inj glued).2
    · contradiction

theorem exists_gluedPart (text : Text) : ∃ behind, text = gluedPart text ++ behind ∧
    gluedPart (gluedPart text) = gluedPart text ∧ gluedPart behind = [] := by
  induction text with
  | nil => exact ⟨[], rfl, rfl, rfl⟩
  | cons char rest ih =>
    rw [gluedPart_cons]
    split
    · rename_i accepted
      obtain ⟨behind, same, again, stops⟩ := ih
      refine ⟨behind, by rw [List.cons_append, ← same], ?_, stops⟩
      have kept : (isIdentifierContinue char || startsFraction (char :: gluedPart rest)) = true := by
        rw [Bool.or_eq_true] at accepted ⊢
        refine accepted.imp_right ?_
        intro starts
        obtain ⟨inside, split, digit⟩ := startsFraction_iff.mp starts
        simp only [List.cons.injEq] at split
        obtain ⟨rfl, rfl⟩ := split
        refine startsFraction_dot ?_
        cases rest with
        | nil => simp at digit
        | cons next rest =>
          rw [Text.begins_cons] at digit
          rw [gluedPart_cons, isIdentifierContinue_of_isDigit digit]
          simpa using digit
      rw [gluedPart_cons, if_pos kept, again]
    · rename_i refused
      exact ⟨char :: rest, rfl, rfl, by rw [gluedPart_cons, if_neg refused]⟩

/-! ## The two ways of reading -/

/-- The readings there are: plain numbers and, where numbers are read strictly, the glued runs that
begin with a digit and are no plain number. -/
inductive Reading.Formed (strict : Bool) : Reading → Prop where
  | plain {reading : Reading} (isPlain : reading.Plain) : Formed strict reading
  | malformed {run : Text} (isStrict : strict = true) (digit : run.begins isDigit = true)
      (glued : gluedPart run = run) (noNumber : ∀ reading : Reading, reading.Plain →
        reading.text ≠ run) : Formed strict (.malformed run)

theorem Reading.Formed.malformed_run {strict : Bool} {run : Text}
    (formed : (Reading.malformed run).Formed strict) : strict = true ∧
      run.begins isDigit = true ∧ gluedPart run = run ∧
        ∀ reading : Reading, reading.Plain → reading.text ≠ run := by
  cases formed with
  | plain isPlain => cases isPlain
  | malformed isStrict digit glued noNumber => exact ⟨isStrict, digit, glued, noNumber⟩

/-- Whether a reading ends before a text: strictly read, nothing may be glued to it. -/
def Reading.EndsBefore (strict : Bool) (behind : Text) (reading : Reading) : Prop :=
  reading.StopsAt behind ∧ (strict = true → gluedPart behind = [])

theorem read_plain {strict : Bool} {reading : Reading} (plain : reading.Plain) {behind : Text}
    (ends : reading.EndsBefore strict behind) :
    read strict (reading.text ++ behind) = reading := by
  rw [read_append strict plain ends.1]
  cases strict with
  | false => rfl
  | true => simp [hasMalformedTail_eq_false_iff.mpr (ends.2 rfl)]

theorem Reading.Plain.begins {reading : Reading} (plain : reading.Plain) (behind : Text) :
    (reading.text ++ behind).begins isDigit = true := by
  cases plain with
  | whole isDigits => exact isDigits.begins behind
  | fractional isDigits isFraction =>
    simp only [Reading.text, List.append_assoc]
    exact isDigits.begins _

/-- Whether a reading ends is decided by the next character and whether a fraction begins there. -/
theorem Reading.stopsAt_congr {first second : Text} (head : first.head? = second.head?)
    (fraction : startsFraction first = startsFraction second) (reading : Reading) :
    reading.StopsAt first ↔ reading.StopsAt second := by
  have same : ∀ test, first.begins test = second.begins test := by
    intro test
    rw [Text.begins, Text.begins, head]
  cases reading with
  | whole _ => simp only [StopsAt, same, fraction]
  | fractional _ => simp only [StopsAt, same]
  | malformed _ => simp only [StopsAt, gluedPart_eq_nil_iff, same, fraction]

theorem Reading.endsBefore_congr (strict : Bool) {first second : Text}
    (head : first.head? = second.head?) (fraction : startsFraction first = startsFraction second)
    (reading : Reading) :
    reading.EndsBefore strict first ↔ reading.EndsBefore strict second := by
  have glued := stopsAt_congr head fraction (.malformed [])
  simp only [StopsAt] at glued
  simp only [EndsBefore, stopsAt_congr head fraction, glued]

theorem Reading.stopsAt_append (reading : Reading) {text : Text} (some : text ≠ [])
    (more : text ≠ ['.']) (behind : Text) :
    reading.StopsAt (text ++ behind) ↔ reading.StopsAt text :=
  stopsAt_congr (Text.head?_append some behind) (startsFraction_append some more behind) reading

theorem ne_dot_of_glued {run : Text} (glued : gluedPart run = run) : run ≠ ['.'] := by
  rintro rfl
  exact absurd glued (by decide)

/-- Where a plain number ends, no longer plain number begins with it. -/
theorem Reading.Plain.eq_nil_of_append {reading other : Reading} (plain : reading.Plain)
    (otherPlain : other.Plain) {behind : Text} (stops : reading.StopsAt behind)
    (same : other.text = reading.text ++ behind) : behind = [] := by
  have alone : other.EndsBefore false [] := by
    refine ⟨?_, by simp⟩
    cases otherPlain with
    | whole _ => exact ⟨rfl, rfl⟩
    | fractional _ _ => rfl
  have first := read_plain otherPlain alone
  have lenient : reading.EndsBefore false behind := ⟨stops, by simp⟩
  have second := read_plain plain lenient
  rw [List.append_nil, same, second] at first
  rw [← first] at same
  simpa using same

theorem exists_number {run : Text} (digit : run.begins isDigit = true)
    (glued : gluedPart run = run)
    (noNumber : ∀ reading : Reading, reading.Plain → reading.text ≠ run) :
    ∃ (number : Reading) (more : Text), run = number.text ++ more ∧ number.Plain ∧
      number.StopsAt more ∧ gluedPart more = more ∧ more ≠ [] := by
  obtain ⟨number, more, rfl, plain, stops⟩ := exists_plain digit
  have moreGlued := glued_of_suffix (List.suffix_append number.text more) glued
  refine ⟨number, more, rfl, plain, stops, moreGlued, ?_⟩
  rintro rfl
  exact noNumber number plain (List.append_nil number.text).symm

/-- Reads exactly the reading that a text was composed of. -/
theorem read_eq {strict : Bool} {reading : Reading} (formed : reading.Formed strict)
    {behind : Text} (ends : reading.EndsBefore strict behind) :
    read strict (reading.text ++ behind) = reading := by
  cases formed with
  | plain isPlain => exact read_plain isPlain ends
  | malformed isStrict digit glued noNumber =>
    rename_i run
    -- The reader finds the plain number at the front of the run first, and then what spoils it.
    obtain ⟨number, more, rfl, plain, stops, moreGlued, some⟩ :=
      exists_number digit glued noNumber
    have all := gluedPart_append moreGlued behind
    rw [ends.1, List.append_nil] at all
    have spoiled : hasMalformedTail (more ++ behind) = true := by
      rw [← Bool.not_eq_false, hasMalformedTail_eq_false_iff, all]
      exact some
    have stopsLater : number.StopsAt (more ++ behind) :=
      (number.stopsAt_append some (ne_dot_of_glued moreGlued) behind).mpr stops
    show read strict (number.text ++ more ++ behind) = _
    rw [List.append_assoc, read_append strict plain stopsLater, isStrict, spoiled, all]
    rfl

theorem Reading.Formed.begins {strict : Bool} {reading : Reading} (formed : reading.Formed strict)
    (behind : Text) : (reading.text ++ behind).begins isDigit = true := by
  cases formed with
  | plain isPlain => exact isPlain.begins behind
  | @malformed run _ digit _ _ =>
    have some : run ≠ [] := by
      rintro rfl
      simp at digit
    simp only [Reading.text]
    rw [Text.begins_append _ some]
    exact digit

/-- Every text that begins with a digit is composed of what is read at its front and a text before
which that ends. -/
theorem exists_read (strict : Bool) {text : Text} (digit : text.begins isDigit = true) :
    ∃ (reading : Reading) (behind : Text), text = reading.text ++ behind ∧
      reading.Formed strict ∧ reading.EndsBefore strict behind := by
  obtain ⟨number, more, rfl, plain, stops⟩ := exists_plain digit
  by_cases loose : strict = true → gluedPart more = []
  · exact ⟨number, more, rfl, .plain plain, stops, loose⟩
  · have isStrict : strict = true := Decidable.byContradiction fun lenient => loose fun yes =>
      absurd yes lenient
    have someGlued : gluedPart more ≠ [] := fun none => loose fun _ => none
    obtain ⟨behind, split, again, ends⟩ := exists_gluedPart more
    refine ⟨.malformed (number.text ++ gluedPart more), behind, ?_,
      .malformed isStrict (plain.begins _) ?_ ?_, ends, fun _ => ends⟩
    · simp only [Reading.text, List.append_assoc]
      rw [← split]
    · rw [plain.gluedPart_append, again]
    · intro other otherPlain same
      refine someGlued (plain.eq_nil_of_append otherPlain ?_ same)
      rw [split] at stops
      exact (number.stopsAt_append someGlued (ne_dot_of_glued again) behind).mp stops

end Munch.Number
