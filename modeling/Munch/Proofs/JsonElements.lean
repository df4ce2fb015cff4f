import Munch.CharClass
import Munch.Proofs.JsonForm

/-! # How many elements a JSON list has

The elements of a list can be counted in its text: each but the first stands behind a comma that is
in no string and directly in the list. A scan of the text that knows how deep it is in brackets, and
whether it is in a string, finds these commas. Over a value, however it is written, the scan ends as
it began, so only the commas of the list itself are counted. -/
set_option autoImplicit false

namespace Munch

namespace JsonValue

inductive Standing where
  | outside
  | inString
  | escaped
deriving DecidableEq, Repr

/-- A scan of JSON text: how many brackets are open, where it stands, and the commas found so far
directly in the outermost bracket. -/
structure Scan where
  depth : Nat
  standing : Standing
  commas : Nat
deriving DecidableEq, Repr

namespace Scan

def step (scan : Scan) (char : Char) : Scan :=
  match scan.standing with
  | .escaped => { scan with standing := .inString }
  | .inString =>
    if char = '\\' then { scan with standing := .escaped }
    else if char = '"' then { scan with standing := .outside }
    else scan
  | .outside =>
    if char = '"' then { scan with standing := .inString }
    else if char = '[' ∨ char = '{' then { scan with depth := scan.depth + 1 }
    else if char = ']' ∨ char = '}' then { scan with depth := scan.depth - 1 }
    else if char = ',' ∧ scan.depth = 1 then { scan with commas := scan.commas + 1 }
    else scan

def run (scan : Scan) (text : Text) : Scan := text.foldl step scan

@[simp] theorem run_nil (scan : Scan) : scan.run [] = scan := rfl

@[simp] theorem run_cons (scan : Scan) (char : Char) (rest : Text) :
    scan.run (char :: rest) = (scan.step char).run rest := rfl

@[simp] theorem run_append (scan : Scan) (first second : Text) :
    scan.run (first ++ second) = (scan.run first).run second := List.foldl_append

end Scan

/-- The number of elements that the text of a list shows, or none if it is no list. -/
def elementCount? : Text → Option Nat
  | '[' :: inside =>
    if (inside.dropWhile isWhitespace).head? = some ']' then some 0
    else some ((Scan.run ⟨1, .outside, 0⟩ inside).commas + 1)
  | _ => none

/-! ## Characters that a scan passes over -/

def isIdle (char : Char) : Bool :=
  !(['"', '[', '{', ']', '}', ','].contains char)

theorem Scan.step_idle {char : Char} (idle : isIdle char = true) (depth commas : Nat) :
    Scan.step ⟨depth, .outside, commas⟩ char = ⟨depth, .outside, commas⟩ := by
  simp only [isIdle, Bool.not_eq_true', List.contains_eq_mem, decide_eq_false_iff_not,
    List.mem_cons, List.not_mem_nil, or_false, not_or] at idle
  simp [step, idle]

theorem Scan.run_idle {text : Text} (idle : ∀ char ∈ text, isIdle char = true)
    (depth commas : Nat) :
    Scan.run ⟨depth, .outside, commas⟩ text = ⟨depth, .outside, commas⟩ := by
  induction text with
  | nil => rfl
  | cons char rest ih =>
    rw [run_cons, step_idle (idle char List.mem_cons_self)]
    exact ih fun other member => idle other (List.mem_cons_of_mem char member)

theorem isIdle_of_isDigit {char : Char} (digit : char.isDigit = true) : isIdle char = true := by
  rw [← Bool.not_eq_false]
  intro busy
  simp only [isIdle, Bool.not_eq_false', List.contains_eq_mem, decide_eq_true_eq, List.mem_cons,
    List.not_mem_nil, or_false] at busy
  rcases busy with rfl | rfl | rfl | rfl | rfl | rfl <;> exact absurd digit (by decide)

theorem isIdle_of_isNumeral {text : Text} (isNumeral : IsNumeral text) :
    ∀ char ∈ text, isIdle char = true := by
  have digits : ∀ {text : Text}, Numeral.IsDigits text → ∀ char ∈ text, isIdle char = true :=
    fun isDigits char member => isIdle_of_isDigit (isDigits.2 char member)
  obtain @⟨sign, whole, fraction, exponent, isSign, isWhole, isFraction, isExponent⟩ := isNumeral
  have signs : ∀ char ∈ sign, isIdle char = true := by
    rcases isSign with rfl | rfl <;> simp [isIdle]
  have fractions : ∀ char ∈ fraction, isIdle char = true := by
    cases isFraction with
    | none => exact nofun
    | point isDigits => exact List.forall_mem_cons.mpr ⟨rfl, digits isDigits⟩
  have exponents : ∀ char ∈ exponent, isIdle char = true := by
    cases isExponent with
    | none => exact nofun
    | @power mark sign _ isMark isSign isDigits =>
      have marked : isIdle mark = true := by rcases isMark with rfl | rfl <;> rfl
      have signs : ∀ char ∈ sign, isIdle char = true := by
        rcases isSign with rfl | rfl | rfl <;> simp [isIdle]
      exact List.forall_mem_append.mpr
        ⟨List.forall_mem_cons.mpr ⟨marked, signs⟩, digits isDigits⟩
  exact List.forall_mem_append.mpr ⟨List.forall_mem_append.mpr
    ⟨List.forall_mem_append.mpr ⟨signs, digits isWhole.1⟩, fractions⟩, exponents⟩

theorem Scan.run_blanks {blanks : Text} (blank : Blanks blanks) (depth commas : Nat) :
    Scan.run ⟨depth, .outside, commas⟩ blanks = ⟨depth, .outside, commas⟩ :=
  run_idle (blank.forall_mem rfl) depth commas

/-! ## Strings -/

theorem Scan.step_inString {char : Char} (noBackslash : char ≠ '\\') (noMark : char ≠ '"')
    (depth commas : Nat) :
    Scan.step ⟨depth, .inString, commas⟩ char = ⟨depth, .inString, commas⟩ := by
  simp [step, noBackslash, noMark]

theorem Scan.step_spellsDigit {value : Nat} {char : Char} (spelled : SpellsDigit value char)
    (depth commas : Nat) :
    Scan.step ⟨depth, .inString, commas⟩ char = ⟨depth, .inString, commas⟩ := by
  have small : ∀ value < 16, Nat.digitChar value ≠ '\\' ∧ Nat.digitChar value ≠ '"' := by decide
  have capital : ∀ value < 16,
      (Nat.digitChar value).toUpper ≠ '\\' ∧ (Nat.digitChar value).toUpper ≠ '"' := by decide
  obtain ⟨bounded, rfl | rfl⟩ := spelled
  · exact step_inString (small value bounded).1 (small value bounded).2 depth commas
  · exact step_inString (capital value bounded).1 (capital value bounded).2 depth commas

/-- A number behind a backslash and its letter leaves a scan in the string. -/
theorem Scan.run_spellsNumber {number : Nat} {digits : Text} (spelled : SpellsNumber number digits)
    (depth commas : Nat) :
    Scan.run ⟨depth, .inString, commas⟩ ('\\' :: 'u' :: digits) = ⟨depth, .inString, commas⟩ := by
  have opened : Scan.step (Scan.step ⟨depth, .inString, commas⟩ '\\') 'u' =
    ⟨depth, .inString, commas⟩ := rfl
  cases spelled with
  | digits one two three four =>
    simp only [run_cons, run_nil, opened, step_spellsDigit one, step_spellsDigit two,
      step_spellsDigit three, step_spellsDigit four]

theorem Scan.run_spellsChar {char : Char} {text : Text} (spelled : SpellsChar char text)
    (depth commas : Nat) :
    Scan.run ⟨depth, .inString, commas⟩ text = ⟨depth, .inString, commas⟩ := by
  cases spelled with
  | plain free => exact step_inString free.2.1 free.1 depth commas
  | letter => rfl
  | number spells => exact run_spellsNumber spells depth commas
  | halves _ _ _ spellsHigh spellsLow =>
    rw [run_append, run_spellsNumber spellsHigh, run_spellsNumber spellsLow]

theorem Scan.run_spellsChars {content text : Text} (spelled : SpellsChars content text)
    (depth commas : Nat) :
    Scan.run ⟨depth, .inString, commas⟩ text = ⟨depth, .inString, commas⟩ := by
  induction spelled with
  | nil => rfl
  | cons first _ ih => rw [run_append, run_spellsChar first, ih]

theorem Scan.run_spellsString {content text : Text} (spelled : SpellsString content text)
    (depth commas : Nat) :
    Scan.run ⟨depth, .outside, commas⟩ text = ⟨depth, .outside, commas⟩ := by
  have opened : Scan.step ⟨depth, .outside, commas⟩ '"' = ⟨depth, .inString, commas⟩ := rfl
  have closed : Scan.step ⟨depth, .inString, commas⟩ '"' = ⟨depth, .outside, commas⟩ := rfl
  cases spelled with
  | quoted spells =>
    rw [List.cons_append, run_cons, opened, run_append, run_spellsChars spells, run_cons, closed,
      run_nil]

/-! ## Values -/

/-- Whether a scan within brackets is behind a value as it was before it. -/
def Passes {α : Type} (spells : α → Text → Prop) (value : α) : Prop :=
  ∀ text depth commas, spells value text →
    Scan.run ⟨depth + 1, .outside, commas⟩ text = ⟨depth + 1, .outside, commas⟩

/-- Only the commas directly in the outermost bracket count. -/
def outermost (depth commas : Nat) : Nat := if depth = 0 then commas else 0

theorem Scan.run_lead {first : Bool} {lead : Text} (before : SpellsLead first lead)
    (depth commas : Nat) : Scan.run ⟨depth + 1, .outside, commas⟩ lead =
      ⟨depth + 1, .outside, commas + outermost depth (!first).toNat⟩ := by
  cases before with
  | first blank => simp [run_blanks blank, outermost]
  | later blank free =>
    have comma : Scan.step ⟨depth + 1, .outside, commas⟩ ',' =
        ⟨depth + 1, .outside, commas + outermost depth 1⟩ := by
      by_cases zero : depth = 0 <;> simp [step, outermost, zero]
    rw [run_append, run_blanks blank, run_cons, comma, run_blanks free]
    rfl

/-- Behind values and their closing bracket, a scan has found a comma before each but the first. -/
theorem Scan.run_upTo {α : Type} {spells : α → Text → Prop} {values : List α}
    (each : ∀ value ∈ values, Passes spells value) {closing : Char} (closes : closing ∈ [']', '}'])
    {first : Bool} {text : Text} (spelled : SpellsUpTo spells closing first values text)
    (depth commas : Nat) : Scan.run ⟨depth + 1, .outside, commas⟩ text =
      ⟨depth, .outside, commas + outermost depth (values.length - first.toNat)⟩ := by
  induction spelled generalizing commas with
  | close blank =>
    have closed : Scan.step ⟨depth + 1, .outside, commas⟩ closing = ⟨depth, .outside, commas⟩ := by
      simp only [List.mem_cons, List.not_mem_nil, or_false] at closes
      rcases closes with rfl | rfl <;> rfl
    rw [run_append, run_blanks blank, run_cons, closed]
    simp [outermost]
  | @next first value values lead front behind before one more ih =>
    obtain ⟨passes, rest⟩ := List.forall_mem_cons.mp each
    rw [run_append, run_append, run_lead before, passes front _ _ one, ih rest]
    have added : outermost depth (!first).toNat + outermost depth values.length =
        outermost depth (values.length + 1 - first.toNat) := by
      by_cases zero : depth = 0
      · cases first
        · simp [outermost, zero, Nat.add_comm]
        · simp [outermost, zero]
      · simp [outermost, zero]
    rw [Bool.toNat_false, Nat.sub_zero, Nat.add_assoc, added, List.length_cons]

theorem passes_named {value : JsonValue} (passes : Passes Written value) (name : Text) :
    Passes (SpellsNamed Written) (name, value) := by
  intro text depth commas spelled
  cases spelled with
  | named isName blank free written =>
    have colon : Scan.step ⟨depth + 1, .outside, commas⟩ ':' = ⟨depth + 1, .outside, commas⟩ :=
      Scan.step_idle rfl _ _
    simp only [Scan.run_append, Scan.run_cons, Scan.run_spellsString isName, Scan.run_blanks blank,
      colon, Scan.run_blanks free, passes _ _ _ written]

mutual

theorem passes_written : ∀ value : JsonValue, Passes Written value
  | .null, _, _, _, .null => rfl
  | .boolean _, _, _, _, .boolean spelled => by cases spelled <;> rfl
  | .number _, _, _, _, .number isNumeral => Scan.run_idle (isIdle_of_isNumeral isNumeral) _ _
  | .string _, _, _, _, .string spelled => Scan.run_spellsString spelled _ _
  | .list elements, _, depth, commas, .list spelled =>
    Scan.run_upTo (passes_elements elements) (by decide) spelled (depth + 1) commas
  | .object members, _, depth, commas, .object spelled =>
    Scan.run_upTo (passes_members members) (by decide) spelled (depth + 1) commas

theorem passes_elements : ∀ elements : List JsonValue, ∀ element ∈ elements, Passes Written element
  | [] => nofun
  | element :: rest => List.forall_mem_cons.mpr ⟨passes_written element, passes_elements rest⟩

theorem passes_members : ∀ members : List (Text × JsonValue),
    ∀ member ∈ members, Passes (SpellsNamed Written) member
  | [] => nofun
  | (name, value) :: rest =>
    List.forall_mem_cons.mpr ⟨passes_named (passes_written value) name, passes_members rest⟩

end

/-! ## The elements of a list -/

theorem exists_cons_of_isNumeral {text : Text} (isNumeral : IsNumeral text) :
    ∃ char rest, text = char :: rest ∧ (char = '-' ∨ char.isDigit = true) := by
  obtain @⟨sign, whole, fraction, exponent, isSign, ⟨⟨some, digits⟩, -⟩, -, -⟩ := isNumeral
  rcases isSign with rfl | rfl
  · obtain ⟨char, rest, rfl⟩ := List.exists_cons_of_ne_nil some
    exact ⟨char, _, rfl, .inr (digits char List.mem_cons_self)⟩
  · exact ⟨'-', _, rfl, .inl rfl⟩

/-- A value begins with a character that is no blank and closes no list. -/
theorem Written.exists_cons {value : JsonValue} {text : Text} (written : value.Written text) :
    ∃ char rest, text = char :: rest ∧ isWhitespace char = false ∧ char ≠ ']' := by
  cases written with
  | null => exact ⟨'n', _, rfl, rfl, by decide⟩
  | boolean spelled => cases spelled <;> exact ⟨_, _, rfl, rfl, by decide⟩
  | number isNumeral =>
    obtain ⟨char, rest, shape, begins⟩ := exists_cons_of_isNumeral isNumeral
    refine ⟨char, rest, shape, ?_, ?_⟩
    · rw [← Bool.not_eq_true]
      intro blank
      simp only [isWhitespace, Bool.or_eq_true, beq_iff_eq] at blank
      rcases blank with ((rfl | rfl) | rfl) | rfl <;> exact absurd begins (by decide)
    · intro closes
      rw [closes] at begins
      exact absurd begins (by decide)
  | string spelled =>
    obtain ⟨inside, shape⟩ := spelled.exists_inside
    exact ⟨'"', inside, shape, rfl, by decide⟩
  | list => exact ⟨'[', _, rfl, rfl, by decide⟩
  | object => exact ⟨'{', _, rfl, rfl, by decide⟩

/-- The text of a list, on a line, shows as many elements as the list has. -/
theorem elementCount?_of_written {elements : List JsonValue} {text : Text}
    (written : Written (.list elements) text) :
    elementCount? (text ++ ['\n']) = some elements.length := by
  cases written with
  | @list _ inside spelled =>
    have commas : (Scan.run ⟨1, .outside, 0⟩ (inside ++ ['\n'])).commas = elements.length - 1 := by
      rw [Scan.run_append, Scan.run_upTo (passes_elements elements) (by decide) spelled 0 0]
      simp [Scan.step, outermost]
    rw [List.cons_append, elementCount?, commas]
    cases spelled with
    | close blank =>
      rw [List.append_assoc, List.dropWhile_append_of_pos (blank.forall_mem rfl)]
      rfl
    | @next _ element rest lead front behind before one more =>
      obtain ⟨char, tail, rfl, noBlank, noClose⟩ := Written.exists_cons one
      cases before with
      | first blank =>
        have begins : ((lead ++ (char :: tail) ++ behind ++ ['\n']).dropWhile isWhitespace).head? =
            some char := by
          simp only [List.append_assoc]
          rw [List.dropWhile_append_of_pos (blank.forall_mem rfl), List.cons_append,
            List.dropWhile_cons_of_neg (by simp [noBlank]), List.head?_cons]
        rw [begins, if_neg (by simpa using noClose), List.length_cons, Nat.add_sub_cancel]

end JsonValue

end Munch
