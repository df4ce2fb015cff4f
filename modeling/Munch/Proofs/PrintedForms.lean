import Mathlib.Data.List.Nodup
import Munch.Keyword
import Munch.LexError
import Munch.Token

/-! # Printed forms

Messages and listings show numbers by their digits, names by letters, and characters of a source
within quotation marks. All that is printed so can be printed: what has no shape of its own is
written with a letter or a number behind a backslash, so no printed form holds a tab, a line feed or
another control character. And what is printed can be told again. Different numbers have different
digits; no character is written as another is, nor as the beginning of what another is, so that a
quoted text falls into its characters in one way only. -/
set_option autoImplicit false

namespace Munch

/-- Two functions that tell the same members of two lists apart tell the same lists apart. -/
theorem map_eq_map_iff {α β γ : Type} {f : α → β} {g : α → γ} {first second : List α}
    (alike : ∀ one ∈ first, ∀ other ∈ second, f one = f other ↔ g one = g other) :
    first.map f = second.map f ↔ first.map g = second.map g := by
  induction first generalizing second with
  | nil => simp
  | cons one rest ih =>
    cases second with
    | nil => simp
    | cons other more =>
      have heads := alike one List.mem_cons_self other List.mem_cons_self
      have tails := ih fun inner member outer more =>
        alike inner (List.mem_cons_of_mem _ member) outer (List.mem_cons_of_mem _ more)
      rw [List.map_cons, List.map_cons, List.map_cons, List.map_cons, List.cons.injEq,
        List.cons.injEq, heads, tails]

namespace Text

/-! ## Digits -/

/-- What holds of each digit holds of all digits of a number. -/
theorem forall_mem_toDigits {test : Char → Prop} {base : Nat} (some : 1 < base) (small : base ≤ 16)
    (all : ∀ digit < 16, test (Nat.digitChar digit)) (number : Nat) :
    ∀ char ∈ Nat.toDigits base number, test char := by
  induction number using Nat.strongRecOn with
  | ind number ih =>
    intro char member
    rw [Nat.toDigits_eq_if some] at member
    split at member
    · rename_i digit
      rw [List.mem_singleton.mp member]
      apply all
      omega
    · have less : number / base < number := Nat.div_lt_self (by omega) some
      have last : number % base < 16 := Nat.lt_of_lt_of_le (Nat.mod_lt _ (by omega)) small
      rcases List.mem_append.mp member with front | back
      · exact ih _ less char front
      · rw [List.mem_singleton.mp back]
        exact all _ last

theorem digitChar_inj {first second : Nat} (small : first < 16) (otherSmall : second < 16)
    (same : Nat.digitChar first = Nat.digitChar second) : first = second := by
  have apart : ∀ one < 16, ∀ other < 16, Nat.digitChar one = Nat.digitChar other → one = other := by
    decide
  exact apart first small second otherSmall same

/-- Numbers with the same digits are the same. -/
theorem toDigits_inj {base : Nat} (some : 1 < base) (small : base ≤ 16) {first second : Nat}
    (same : Nat.toDigits base first = Nat.toDigits base second) : first = second := by
  induction first using Nat.strongRecOn generalizing second with
  | ind first ih =>
    have digit : ∀ number, number % base < 16 := by
      intro number
      exact Nat.lt_of_lt_of_le (Nat.mod_lt _ (by omega)) small
    have longer : ∀ number last other, Nat.toDigits base number ++ [last] ≠ [other] := by
      intro number last other none
      have length := congrArg List.length none
      have front : 0 < (Nat.toDigits base number).length := Nat.length_toDigits_pos
      rw [List.length_append, List.length_singleton, List.length_singleton] at length
      omega
    by_cases one : first < base
    · rw [Nat.toDigits_of_lt_base one] at same
      by_cases other : second < base
      · rw [Nat.toDigits_of_lt_base other] at same
        exact digitChar_inj (by omega) (by omega) (List.singleton_inj.mp same)
      · have most : base ≤ second := by omega
        rw [Nat.toDigits_of_base_le some most] at same
        exact absurd same.symm (longer _ _ _)
    · have more : base ≤ first := by omega
      rw [Nat.toDigits_of_base_le some more] at same
      by_cases other : second < base
      · rw [Nat.toDigits_of_lt_base other] at same
        exact absurd same (longer _ _ _)
      · have most : base ≤ second := by omega
        rw [Nat.toDigits_of_base_le some most] at same
        obtain ⟨front, last⟩ := List.append_inj' same rfl
        have less : first / base < first := Nat.div_lt_self (by omega) some
        have quotient := ih _ less front
        have remainder := digitChar_inj (digit first) (digit second) (List.singleton_inj.mp last)
        rw [← Nat.div_add_mod first base, quotient, remainder, Nat.div_add_mod]

/-! ## Fields -/

/-- What stands before the first of some character, and what stands behind it, can be told apart. -/
theorem append_cons_inj {separator : Char} {first second behind rest : Text}
    (apart : separator ∉ first) (otherApart : separator ∉ second)
    (same : first ++ separator :: behind = second ++ separator :: rest) :
    first = second ∧ behind = rest := by
  induction first generalizing second with
  | nil =>
    cases second with
    | nil => exact ⟨rfl, (List.cons.inj same).2⟩
    | cons char more =>
      have head : separator = char := (List.cons.inj same).1
      exact absurd (List.mem_cons.mpr (Or.inl head)) otherApart
  | cons char more ih =>
    cases second with
    | nil =>
      have head : char = separator := (List.cons.inj same).1
      exact absurd (List.mem_cons.mpr (Or.inl head.symm)) apart
    | cons other others =>
      obtain ⟨head, tail⟩ := List.cons.inj same
      obtain ⟨front, back⟩ := ih (fun member => apart (List.mem_cons_of_mem _ member))
        (fun member => otherApart (List.mem_cons_of_mem _ member)) tail
      exact ⟨by rw [head, front], back⟩

/-! ## Printable text -/

def Printable (text : Text) : Prop := ∀ char ∈ text, isUnprintable char = false

instance (text : Text) : Decidable text.Printable :=
  List.decidableBAll (fun char => isUnprintable char = false) text

theorem Printable.not_mem {text : Text} (printable : text.Printable) {char : Char}
    (hidden : isUnprintable char = true) : char ∉ text := by
  intro member
  rw [printable char member] at hidden
  contradiction

theorem Printable.append {first second : Text} (front : first.Printable)
    (behind : second.Printable) : Printable (first ++ second) := by
  intro char member
  rcases List.mem_append.mp member with inside | inside
  · exact front char inside
  · exact behind char inside

theorem Printable.cons {first : Char} {rest : Text} (front : isUnprintable first = false)
    (behind : rest.Printable) : Printable (first :: rest) := by
  intro char member
  rcases List.mem_cons.mp member with same | inside
  · rw [same]
    exact front
  · exact behind char inside

theorem printable_nil : Printable [] := by
  intro char member
  contradiction

theorem printable_toDigits {base : Nat} (some : 1 < base) (small : base ≤ 16) (number : Nat) :
    Printable (Nat.toDigits base number) :=
  forall_mem_toDigits some small (by decide) number

theorem printable_ofNat (number : Nat) : Printable (ofNat number) :=
  printable_toDigits (by decide) (by decide) number

/-! ## Characters within marks -/

def markLetters (mark : Char) : List (Char × Char) :=
  [('\x00', '0'), ('\t', 't'), ('\r', 'r'), ('\n', 'n'), ('\\', '\\'), (mark, mark)]

/-- How a character can be written within a mark: with a letter, with its number, or as it is. -/
inductive WrittenWithin (mark : Char) : Char → Text → Prop where
  | letter {char letter : Char} (stands : (char, letter) ∈ markLetters mark) :
      WrittenWithin mark char ['\\', letter]
  | number (char : Char) : WrittenWithin mark char (bracedHex char)
  | plain {char : Char} (noBackslash : char ≠ '\\') (noMark : char ≠ mark)
      (shown : isUnprintable char = false) : WrittenWithin mark char [char]

theorem writtenWithin_escapeWithin (mark char : Char) :
    WrittenWithin mark char (escapeWithin mark char) := by
  unfold escapeWithin
  split
  · rename_i same
    exact .letter (by simp [same, markLetters])
  split
  · rename_i same
    exact .letter (by simp [same, markLetters])
  split
  · rename_i same
    exact .letter (by simp [same, markLetters])
  split
  · rename_i same
    exact .letter (by simp [same, markLetters])
  split
  · rename_i same
    exact .letter (by simp [same, markLetters])
  split
  · rename_i same
    exact .letter (by simp [same, markLetters])
  split
  · exact .number char
  · rename_i noBackslash noMark plain
    rw [Bool.or_eq_true, not_or, Bool.not_eq_true, Bool.not_eq_true] at plain
    exact .plain noBackslash noMark plain.2

def quotationMarks : List Char := ['"', '\'']

/-- The letters behind a backslash are different, and seen, and none is that of a number. -/
theorem letters_of_mark {mark : Char} (isMark : mark ∈ quotationMarks) :
    ((markLetters mark).map Prod.snd).Nodup ∧ Printable ((markLetters mark).map Prod.snd) ∧
      'u' ∉ (markLetters mark).map Prod.snd := by
  rw [quotationMarks, List.mem_cons, List.mem_singleton] at isMark
  rcases isMark with same | same
  · rw [same]
    decide
  · rw [same]
    decide

theorem printable_bracedHex (char : Char) : Printable (bracedHex char) := by
  have digits : Printable (Nat.toDigits 16 char.toNat ++ ['}']) :=
    (printable_toDigits (by decide) (by decide) _).append (printable_nil.cons (by decide))
  exact ((digits.cons (by decide)).cons (by decide)).cons (by decide)

section Marks

variable {mark : Char} (isMark : mark ∈ quotationMarks)

include isMark

theorem WrittenWithin.printable {char : Char} {text : Text}
    (written : WrittenWithin mark char text) : text.Printable := by
  cases written with
  | letter stands =>
    have seen := (letters_of_mark isMark).2.1 _ (List.mem_map_of_mem stands)
    exact (printable_nil.cons seen).cons (by decide)
  | number => exact printable_bracedHex char
  | plain _ _ shown => exact printable_nil.cons shown

/-- Two characters that are written with the same beginning are the same, and so is what follows. -/
theorem WrittenWithin.append_inj {first second : Char} {front other behind rest : Text}
    (one : WrittenWithin mark first front) (two : WrittenWithin mark second other)
    (same : front ++ behind = other ++ rest) : first = second ∧ behind = rest := by
  obtain ⟨different, -, free⟩ := letters_of_mark isMark
  cases one with
  | letter stands =>
    cases two with
    | letter stands' =>
      simp only [List.cons_append, List.nil_append, List.cons.injEq, true_and] at same
      obtain ⟨letter, behind⟩ := same
      have entry := List.inj_on_of_nodup_map different stands stands' letter
      exact ⟨congrArg Prod.fst entry, behind⟩
    | number =>
      simp only [bracedHex, List.cons_append, List.cons.injEq, true_and] at same
      rw [same.1] at stands
      exact absurd (List.mem_map_of_mem stands) free
    | plain noBackslash _ _ =>
      simp only [List.cons_append, List.nil_append, List.cons.injEq] at same
      exact absurd same.1.symm noBackslash
  | number =>
    cases two with
    | letter stands =>
      simp only [bracedHex, List.cons_append, List.cons.injEq, true_and] at same
      rw [← same.1] at stands
      exact absurd (List.mem_map_of_mem stands) free
    | number =>
      have plain : ∀ number, ∀ char ∈ Nat.toDigits 16 number, char ≠ '}' := by
        intro number
        exact forall_mem_toDigits (by decide) (by decide) (by decide) number
      have closing : ∀ number, '}' ∉ Nat.toDigits 16 number := by
        intro number member
        exact plain number '}' member rfl
      simp only [bracedHex, List.cons_append, List.append_assoc, List.nil_append, List.cons.injEq,
        true_and] at same
      obtain ⟨digits, behind⟩ := append_cons_inj (closing _) (closing _) same
      exact ⟨Char.toNat_inj.mp (toDigits_inj (by decide) (by decide) digits), behind⟩
    | plain noBackslash _ _ =>
      simp only [bracedHex, List.cons_append, List.nil_append, List.cons.injEq] at same
      exact absurd same.1.symm noBackslash
  | plain noBackslash _ _ =>
    cases two with
    | letter _ =>
      simp only [List.cons_append, List.nil_append, List.cons.injEq] at same
      exact absurd same.1 noBackslash
    | number =>
      simp only [bracedHex, List.cons_append, List.nil_append, List.cons.injEq] at same
      exact absurd same.1 noBackslash
    | plain _ _ _ =>
      simp only [List.cons_append, List.nil_append, List.cons.injEq] at same
      exact same

theorem printable_escapeWithin (char : Char) : Printable (escapeWithin mark char) :=
  (writtenWithin_escapeWithin mark char).printable isMark

theorem escapeWithin_append_inj {first second : Char} {behind rest : Text}
    (same : escapeWithin mark first ++ behind = escapeWithin mark second ++ rest) :
    first = second ∧ behind = rest :=
  (writtenWithin_escapeWithin mark first).append_inj isMark
    (writtenWithin_escapeWithin mark second) same

/-- Different texts are written differently. -/
theorem flatMap_escapeWithin_inj {first second : Text}
    (same : first.flatMap (escapeWithin mark) = second.flatMap (escapeWithin mark)) :
    first = second := by
  have some : ∀ char, escapeWithin mark char ≠ [] := by
    intro char none
    have written := writtenWithin_escapeWithin mark char
    rw [none] at written
    cases written
  induction first generalizing second with
  | nil =>
    cases second with
    | nil => rfl
    | cons char rest =>
      rw [List.flatMap_nil, List.flatMap_cons] at same
      exact absurd (List.append_eq_nil_iff.mp same.symm).1 (some char)
  | cons char rest ih =>
    cases second with
    | nil =>
      rw [List.flatMap_nil, List.flatMap_cons] at same
      exact absurd (List.append_eq_nil_iff.mp same).1 (some char)
    | cons other more =>
      rw [List.flatMap_cons, List.flatMap_cons] at same
      obtain ⟨head, tail⟩ := escapeWithin_append_inj isMark same
      rw [head, ih tail]

end Marks

/-! ## Quoted characters and texts -/

theorem mem_quotationMarks : '"' ∈ quotationMarks ∧ '\'' ∈ quotationMarks := by decide

theorem quotedChar_inj {first second : Char} :
    quotedChar first = quotedChar second ↔ first = second := by
  constructor
  · intro same
    exact (escapeWithin_append_inj mem_quotationMarks.2 (List.cons.inj same).2).1
  · exact congrArg quotedChar

theorem quoted_inj {first second : Text} : first.quoted = second.quoted ↔ first = second := by
  constructor
  · intro same
    have inside := List.append_cancel_right (List.cons.inj same).2
    exact flatMap_escapeWithin_inj mem_quotationMarks.1 inside
  · exact congrArg quoted

theorem printable_quotedChar (char : Char) : Printable (quotedChar char) := by
  have escaped := printable_escapeWithin mem_quotationMarks.2 char
  exact (escaped.append (printable_nil.cons (by decide))).cons (by decide)

theorem printable_quoted (text : Text) : Printable text.quoted := by
  have escaped : Printable (text.flatMap (escapeWithin '"')) := by
    intro char member
    obtain ⟨written, -, inside⟩ := List.mem_flatMap.mp member
    exact printable_escapeWithin mem_quotationMarks.1 written char inside
  exact (escaped.append (printable_nil.cons (by decide))).cons (by decide)

/-- A letter with an accent of its own stands as it is, and the accent alone as its number. -/
example : quoted ['\t', 'é', '"', '\'', '\u0301'] =
    "\"\\té\\\"'\\u\x7b301\x7d\"".toList := by
  decide +kernel

end Text

/-! ## Places, faults and names -/

theorem Position.printable_display (place : Position) : place.display.Printable := by
  have column : Text.Printable (':' :: Text.ofNat place.column) :=
    (Text.printable_ofNat place.column).cons (by decide)
  exact (Text.printable_ofNat place.line).append column

theorem Fault.printable_message (fault : Fault) : fault.message.Printable := by
  cases fault with
  | illegalCharacter char =>
    have wording : Text.Printable "illegal character: ".toList := by decide +kernel
    exact wording.append (Text.printable_quotedChar char)
  | unterminatedString => decide +kernel
  | malformedNumber => decide +kernel

theorem Kind.printable_name (kind : Kind) : kind.name.Printable := by
  cases kind with
  | keyword word => cases word <;> decide +kernel
  | operator symbol => cases symbol <;> decide +kernel
  | identifier => decide +kernel
  | endOfInput => decide +kernel
  | integer digits => exact (by decide +kernel : Text.Printable "IntegerLiteral".toList)
  | floating digits => exact (by decide +kernel : Text.Printable "FloatingLiteral".toList)
  | string content => exact (by decide +kernel : Text.Printable "StringLiteral".toList)
  | boolean value => exact (by decide +kernel : Text.Printable "BooleanLiteral".toList)

theorem LexError.printable_line (error : LexError) : error.line.Printable := by
  have separator : Text.Printable ": ".toList := by decide +kernel
  exact (error.position.printable_display.append separator).append error.fault.printable_message

end Munch
