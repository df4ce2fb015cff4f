import Munch.Proofs.SettingsForm
import Munch.Settings.QuotedText

/-! # Reading a string takes what spells it

The readers of digits, escapes and strings against the rules for them. A reader and a rule agree if
the reader gives a value and a rest exactly where what it took is a spelling of the value. This is
said of each reader together with any text behind, for a string shows by itself where it ends. -/
set_option autoImplicit false

namespace Munch.Settings

/-- Whether a reader takes from the front of any text just what spells the value that it gives. -/
def Accepts {α : Type} (read : Text → Outcome α) (spells : α → Text → Prop) : Prop :=
  ∀ text value rest, read text = .ok (value, rest) ↔
    ∃ front, text = front ++ rest ∧ spells value front

section

variable {α : Type} {read : Text → Outcome α} {spells : α → Text → Prop} {value : α}
  {text front : Text}

theorem Accepts.exists_front (accepts : Accepts read spells) {rest : Text}
    (taken : read text = .ok (value, rest)) : ∃ front, text = front ++ rest ∧ spells value front :=
  (accepts text value rest).mp taken

theorem Accepts.read_append (accepts : Accepts read spells) (spelled : spells value front)
    (rest : Text) : read (front ++ rest) = .ok (value, rest) :=
  (accepts (front ++ rest) value rest).mpr ⟨front, rfl, spelled⟩

end

/-! ## Numbers -/

theorem hexDigit?_eq_some_iff {char : Char} {value : Nat} :
    hexDigit? char = some value ↔ SpellsDigit value char := by
  constructor
  · intro found
    have numbers : ∀ value < 16, (value < 10 → (Nat.digitChar value).toNat = 48 + value) ∧
        (10 ≤ value → (Nat.digitChar value).toNat = 87 + value ∧
          (Nat.digitChar value).toUpper.toNat = 55 + value) := by decide
    have digit := numbers value
    simp only [hexDigit?, Char.le_def, UInt32.le_iff_toNat_le, Char.toNat_val] at found
    split at found
    · rename_i range
      simp only [Option.some.injEq] at found
      change 48 ≤ char.toNat ∧ char.toNat ≤ 57 at range
      change char.toNat - 48 = value at found
      exact ⟨by omega, .inl (Char.toNat_inj.mp (by omega))⟩
    · split at found
      · rename_i range
        simp only [Option.some.injEq] at found
        change 97 ≤ char.toNat ∧ char.toNat ≤ 102 at range
        change char.toNat - 97 + 10 = value at found
        exact ⟨by omega, .inl (Char.toNat_inj.mp (by omega))⟩
      · split at found
        · rename_i range
          simp only [Option.some.injEq] at found
          change 65 ≤ char.toNat ∧ char.toNat ≤ 70 at range
          change char.toNat - 65 + 10 = value at found
          exact ⟨by omega, .inr (Char.toNat_inj.mp (by omega))⟩
        · contradiction
  · rintro ⟨small, rfl | rfl⟩
    · exact (by decide : ∀ value < 16, hexDigit? (Nat.digitChar value) = some value) value small
    · exact (by decide : ∀ value < 16, hexDigit? (Nat.digitChar value).toUpper = some value)
        value small

theorem spellsNumber_iff {number : Nat} {text : Text} : SpellsNumber number text ↔
    ∃ a b c d first second third fourth, text = [a, b, c, d] ∧ SpellsDigit first a ∧
      SpellsDigit second b ∧ SpellsDigit third c ∧ SpellsDigit fourth d ∧
      number = ((first * 16 + second) * 16 + third) * 16 + fourth := by
  constructor
  · rintro ⟨one, two, three, four⟩
    exact ⟨_, _, _, _, _, _, _, _, rfl, one, two, three, four, rfl⟩
  · rintro ⟨_, _, _, _, _, _, _, _, rfl, one, two, three, four, rfl⟩
    exact .digits one two three four

theorem hexNumber?_eq_some_iff {text rest : Text} {number : Nat} :
    hexNumber? text = some (number, rest) ↔
      ∃ digits, text = digits ++ rest ∧ SpellsNumber number digits := by
  constructor
  · intro found
    unfold hexNumber? at found
    split at found
    · rename_i a b c d behind
      simp only [Option.bind_eq_bind, Option.bind_eq_some_iff, Option.pure_def, Option.some.injEq,
        Prod.mk.injEq, hexDigit?_eq_some_iff] at found
      obtain ⟨first, one, second, two, third, three, fourth, four, rfl, rfl⟩ := found
      exact ⟨[a, b, c, d], rfl, .digits one two three four⟩
    · contradiction
  · rintro ⟨digits, rfl, spelled⟩
    obtain ⟨a, b, c, d, first, second, third, fourth, rfl, one, two, three, four, rfl⟩ :=
      spellsNumber_iff.mp spelled
    rw [← hexDigit?_eq_some_iff] at one two three four
    simp [hexNumber?, one, two, three, four]

theorem lt_of_spellsNumber {number : Nat} {text : Text} (spelled : SpellsNumber number text) :
    number < 0x10000 := by
  obtain ⟨_, _, _, _, first, second, third, fourth, -, ⟨one, -⟩, ⟨two, -⟩, ⟨three, -⟩, ⟨four, -⟩,
    rfl⟩ := spellsNumber_iff.mp spelled
  omega

theorem accepts_readHexNumber : Accepts readHexNumber SpellsNumber := by
  intro text number rest
  rw [← hexNumber?_eq_some_iff]
  unfold readHexNumber
  cases hexNumber? text with
  | some found => simp [Prod.ext_iff]
  | none =>
    simp only [reduceCtorEq, iff_false]
    split <;> nofun

/-! ## Characters -/

theorem letterEscape?_eq_some_iff {letter char : Char} :
    letterEscape? letter = some char ↔ (letter, char) ∈ escapeLetters := by
  constructor
  · intro found
    unfold letterEscape? at found
    split at found <;> cases found <;> decide
  · intro stands
    simp only [escapeLetters, List.mem_cons, Prod.mk.injEq, List.not_mem_nil, or_false] at stands
    rcases stands with ⟨rfl, rfl⟩ | ⟨rfl, rfl⟩ | ⟨rfl, rfl⟩ | ⟨rfl, rfl⟩ | ⟨rfl, rfl⟩ |
      ⟨rfl, rfl⟩ | ⟨rfl, rfl⟩ | ⟨rfl, rfl⟩ <;> rfl

theorem toNat_ofNat {number : Nat} (valid : number.isValidChar) :
    (Char.ofNat number).toNat = number := by
  rw [Char.ofNat, dif_pos valid]
  rfl

theorem isHighSurrogate_iff {unit : Nat} :
    isHighSurrogate unit = true ↔ 0xD800 ≤ unit ∧ unit ≤ 0xDBFF := by
  simp [isHighSurrogate]

theorem isLowSurrogate_iff {unit : Nat} :
    isLowSurrogate unit = true ↔ 0xDC00 ≤ unit ∧ unit ≤ 0xDFFF := by
  simp [isLowSurrogate]

/-- Two halves make a character by its number. -/
theorem joinSurrogates_eq_iff {high low : Nat} (isHigh : 0xD800 ≤ high ∧ high ≤ 0xDBFF)
    (isLow : 0xDC00 ≤ low ∧ low ≤ 0xDFFF) {char : Char} : joinSurrogates high low = char ↔
      char.toNat = 0x10000 + (high - 0xD800) * 0x400 + (low - 0xDC00) := by
  have valid : (0x10000 + (high - 0xD800) * 0x400 + (low - 0xDC00)).isValidChar :=
    Or.inr (by omega)
  rw [joinSurrogates, ← Char.toNat_inj, toNat_ofNat valid]
  exact eq_comm

theorem readLowHalf_eq_ok_iff {high : Nat} (isHigh : 0xD800 ≤ high ∧ high ≤ 0xDBFF)
    {text rest : Text} {char : Char} : readLowHalf high text = .ok (char, rest) ↔
      ∃ low second, text = second ++ rest ∧ SpellsNumber low second ∧
        (0xDC00 ≤ low ∧ low ≤ 0xDFFF) ∧
        char.toNat = 0x10000 + (high - 0xD800) * 0x400 + (low - 0xDC00) := by
  constructor
  · intro done
    unfold readLowHalf at done
    split at done
    · contradiction
    · rename_i low behind taken
      obtain ⟨second, rfl, spelled⟩ := accepts_readHexNumber.exists_front taken
      split at done
      · rename_i isLow
        rw [isLowSurrogate_iff] at isLow
        simp only [Except.ok.injEq, Prod.mk.injEq, joinSurrogates_eq_iff isHigh isLow] at done
        obtain ⟨joined, rfl⟩ := done
        exact ⟨low, second, rfl, spelled, isLow, joined⟩
      · contradiction
  · rintro ⟨low, second, rfl, spelled, isLow, joined⟩
    simp only [readLowHalf, accepts_readHexNumber.read_append spelled, isLowSurrogate_iff.mpr isLow,
      if_true, (joinSurrogates_eq_iff isHigh isLow).mpr joined]

theorem readLowSurrogate_eq_ok_iff {high : Nat} {text rest : Text} {char : Char} :
    readLowSurrogate high text = .ok (char, rest) ↔
      ∃ behind, text = '\\' :: 'u' :: behind ∧ readLowHalf high behind = .ok (char, rest) := by
  constructor
  · intro done
    unfold readLowSurrogate at done
    split at done
    · contradiction
    · split at done <;> contradiction
    · rename_i char letter behind
      split at done
      · contradiction
      · rename_i slash
        split at done
        · contradiction
        · rename_i mark
          rw [Decidable.not_not] at slash mark
          subst slash mark
          exact ⟨behind, rfl, done⟩
  · rintro ⟨behind, rfl, done⟩
    exact done

/-- A character by number is one of the first characters or comes in two halves. -/
theorem spellsChar_number_iff {char : Char} {text : Text} :
    SpellsChar char ('\\' :: 'u' :: text) ↔ SpellsNumber char.toNat text ∨
      ∃ high low first second, text = first ++ '\\' :: 'u' :: second ∧
        (0xD800 ≤ high ∧ high ≤ 0xDBFF) ∧ (0xDC00 ≤ low ∧ low ≤ 0xDFFF) ∧
        char.toNat = 0x10000 + (high - 0xD800) * 0x400 + (low - 0xDC00) ∧
        SpellsNumber high first ∧ SpellsNumber low second := by
  constructor
  · intro spelled
    cases spelled with
    | letter stands => simp [escapeLetters] at stands
    | number spells => exact .inl spells
    | halves isHigh isLow joined spellsHigh spellsLow =>
      exact .inr ⟨_, _, _, _, rfl, isHigh, isLow, joined, spellsHigh, spellsLow⟩
  · rintro (spells | ⟨high, low, first, second, rfl, isHigh, isLow, joined, spellsHigh, spellsLow⟩)
    · exact .number spells
    · exact .halves isHigh isLow joined spellsHigh spellsLow

theorem accepts_readNumericEscape :
    Accepts readNumericEscape fun char text => SpellsChar char ('\\' :: 'u' :: text) := by
  intro text char rest
  simp only [spellsChar_number_iff]
  constructor
  · intro done
    unfold readNumericEscape at done
    split at done
    · contradiction
    · rename_i unit behind taken
      obtain ⟨front, rfl, spelled⟩ := accepts_readHexNumber.exists_front taken
      split at done
      · contradiction
      · rename_i notLow
        split at done
        · rename_i isHigh
          rw [isHighSurrogate_iff] at isHigh
          obtain ⟨half, rfl, done⟩ := readLowSurrogate_eq_ok_iff.mp done
          obtain ⟨low, second, rfl, spelledLow, isLow, joined⟩ :=
            (readLowHalf_eq_ok_iff isHigh).mp done
          exact ⟨front ++ '\\' :: 'u' :: second, by simp,
            .inr ⟨unit, low, front, second, rfl, isHigh, isLow, joined, spelled, spelledLow⟩⟩
        · rename_i notHigh
          have small := lt_of_spellsNumber spelled
          have valid : unit.isValidChar := by
            rw [isLowSurrogate_iff] at notLow
            rw [isHighSurrogate_iff] at notHigh
            simp only [Nat.isValidChar]
            omega
          simp only [Except.ok.injEq, Prod.mk.injEq] at done
          obtain ⟨rfl, rfl⟩ := done
          exact ⟨front, rfl, .inl (by rwa [toNat_ofNat valid])⟩
  · rintro ⟨front, rfl, spelled |
      ⟨high, low, first, second, rfl, isHigh, isLow, joined, spelledHigh, spelledLow⟩⟩
    · have valid : char.toNat.isValidChar := char.valid
      simp only [Nat.isValidChar] at valid
      have notLow : ¬ isLowSurrogate char.toNat = true := by
        rw [isLowSurrogate_iff]
        omega
      have notHigh : ¬ isHighSurrogate char.toNat = true := by
        rw [isHighSurrogate_iff]
        omega
      simp only [readNumericEscape, accepts_readHexNumber.read_append spelled, if_neg notLow,
        if_neg notHigh, Char.ofNat_toNat]
    · have notLow : ¬ isLowSurrogate high = true := by
        rw [isLowSurrogate_iff]
        omega
      rw [List.append_assoc]
      simp only [readNumericEscape, accepts_readHexNumber.read_append spelledHigh, if_neg notLow,
        if_pos (isHighSurrogate_iff.mpr isHigh)]
      exact readLowSurrogate_eq_ok_iff.mpr ⟨second ++ rest, rfl,
        (readLowHalf_eq_ok_iff isHigh).mpr ⟨low, second, rfl, spelledLow, isLow, joined⟩⟩

theorem accepts_readEscape :
    Accepts readEscape fun char text => SpellsChar char ('\\' :: text) := by
  intro text char rest
  constructor
  · intro done
    unfold readEscape at done
    split at done
    · contradiction
    · rename_i letter behind
      split at done
      · rename_i numeric
        subst numeric
        obtain ⟨front, rfl, spelled⟩ := accepts_readNumericEscape.exists_front done
        exact ⟨'u' :: front, rfl, spelled⟩
      · split at done
        · rename_i stands
          simp only [Except.ok.injEq, Prod.mk.injEq] at done
          obtain ⟨rfl, rfl⟩ := done
          exact ⟨[letter], rfl, .letter (letterEscape?_eq_some_iff.mp stands)⟩
        · contradiction
  · rintro ⟨front, rfl, spelled⟩
    cases spelled with
    | plain free => exact absurd rfl free.2.1
    | letter stands =>
      simp only [readEscape, List.cons_append, List.nil_append,
        letterEscape?_eq_some_iff.mpr stands]
      split
      · rename_i numeric
        subst numeric
        simp [escapeLetters] at stands
      · rfl
    | number spells => exact accepts_readNumericEscape.read_append (.number spells) rest
    | halves isHigh isLow joined spellsHigh spellsLow =>
      exact accepts_readNumericEscape.read_append
        (.halves isHigh isLow joined spellsHigh spellsLow) rest

/-! ## Strings -/

/-- One character of a string is read before those behind it. -/
theorem readQuotedFrom_append {char : Char} {front : Text} (spelled : SpellsChar char front)
    (read rest : Text) :
    readQuotedFrom read (front ++ rest) = readQuotedFrom (char :: read) rest := by
  have escape : ∀ text, SpellsChar char ('\\' :: text) →
      readQuotedFrom read ('\\' :: text ++ rest) = readQuotedFrom (char :: read) rest := by
    intro text spelled
    have step := accepts_readEscape.read_append spelled rest
    rw [List.cons_append, readQuotedFrom, if_neg (by decide), if_pos rfl]
    split
    · rename_i failure other
      rw [step] at other
      contradiction
    · rename_i escaped behind other
      rw [step] at other
      cases other
      rfl
  cases spelled with
  | plain free =>
    obtain ⟨mark, slash, control⟩ := free
    rw [List.cons_append, List.nil_append, readQuotedFrom, if_neg mark, if_neg slash,
      if_neg (by omega)]
  | letter stands => exact escape _ (.letter stands)
  | number spells => exact escape _ (.number spells)
  | halves isHigh isLow joined spellsHigh spellsLow =>
    exact escape _ (.halves isHigh isLow joined spellsHigh spellsLow)

/-- Characters and the closing mark are read to the end. -/
theorem readQuotedFrom_of_spellsChars {content inside : Text} (spelled : SpellsChars content inside)
    (read rest : Text) :
    readQuotedFrom read (inside ++ '"' :: rest) = .ok (read.reverse ++ content, rest) := by
  induction spelled generalizing read with
  | nil => rw [List.nil_append, readQuotedFrom, if_pos rfl, List.append_nil]
  | cons first _ ih =>
    rw [List.append_assoc, readQuotedFrom_append first, ih, List.reverse_cons, List.append_assoc,
      List.singleton_append]

/-- What is read behind other characters is the characters up to the closing mark. -/
theorem spellsChars_of_readQuotedFrom {read text content rest : Text}
    (done : readQuotedFrom read text = .ok (content, rest)) :
    ∃ chars inside, content = read.reverse ++ chars ∧ text = inside ++ '"' :: rest ∧
      SpellsChars chars inside := by
  fun_induction readQuotedFrom read text with
  | case1 => contradiction
  | case2 =>
    cases done
    exact ⟨[], [], by simp, rfl, .nil⟩
  | case3 => contradiction
  | case4 read inner escaped behind step shorter mark ih =>
    obtain ⟨chars, inside, rfl, shape, spelled⟩ := ih done
    subst shape
    obtain ⟨front, rfl, first⟩ := accepts_readEscape.exists_front step
    exact ⟨escaped :: chars, '\\' :: front ++ inside, by simp, by simp, .cons first spelled⟩
  | case5 => contradiction
  | case6 read char behind mark escape control ih =>
    obtain ⟨chars, inside, rfl, rfl, spelled⟩ := ih done
    exact ⟨char :: chars, char :: inside, by simp, rfl,
      .cons (.plain ⟨mark, escape, by omega⟩) spelled⟩

theorem accepts_readQuoted :
    Accepts readQuoted fun content text => SpellsString content ('"' :: text) := by
  intro text content rest
  constructor
  · intro done
    obtain ⟨chars, inside, rfl, rfl, spelled⟩ := spellsChars_of_readQuotedFrom done
    exact ⟨inside ++ ['"'], by simp, .quoted spelled⟩
  · rintro ⟨front, rfl, spelled⟩
    obtain ⟨inside, shape, spelled⟩ :
        ∃ inside, front = inside ++ ['"'] ∧ SpellsChars content inside := by
      generalize whole : '"' :: front = quoted at spelled
      cases spelled with
      | quoted spelled => exact ⟨_, by simpa using whole, spelled⟩
    rw [shape, List.append_assoc]
    exact readQuotedFrom_of_spellsChars spelled [] rest

end Munch.Settings
