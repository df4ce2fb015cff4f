import Mathlib.Data.List.TakeWhile
import Munch.Proofs.QuotedReading
import Munch.Settings.Reading

/-! # Reading a value takes what spells it

Blanks, literals and the values of the two fields: a list of words and a flag. Blanks are passed by
whoever reads next, so what a mark stands behind is said by what is left when they are skipped. -/
set_option autoImplicit false

namespace Munch.Settings

/-! ## Blanks and literals -/

theorem isBlank_iff {char : Char} : isBlank char = true ↔ char ∈ [' ', '\t', '\n', '\r'] := by
  simp [isBlank, or_assoc]

theorem exists_blanks (text : Text) : ∃ blanks, Blanks blanks ∧ text = blanks ++ skipBlanks text :=
  ⟨text.takeWhile isBlank, fun _ member => isBlank_iff.mp (List.mem_takeWhile_imp member),
    List.takeWhile_append_dropWhile.symm⟩

theorem skipBlanks_append {blanks : Text} (blank : Blanks blanks) (text : Text) :
    skipBlanks (blanks ++ text) = skipBlanks text :=
  List.dropWhile_append_of_pos fun char member => isBlank_iff.mpr (blank char member)

theorem skipBlanks_eq_nil_iff {text : Text} : skipBlanks text = [] ↔ Blanks text := by
  simp only [skipBlanks, List.dropWhile_eq_nil_iff, isBlank_iff, Blanks]

theorem skipBlanks_cons {mark : Char} (solid : isBlank mark = false) (rest : Text) :
    skipBlanks (mark :: rest) = mark :: rest :=
  List.dropWhile_cons_of_neg (by simp [solid])

/-- A text shows a mark if it begins with it but for blanks. -/
theorem skipBlanks_eq_cons_iff {mark : Char} (solid : isBlank mark = false) {text rest : Text} :
    skipBlanks text = mark :: rest ↔ ∃ blanks, Blanks blanks ∧ text = blanks ++ mark :: rest := by
  constructor
  · intro shows
    obtain ⟨blanks, blank, shape⟩ := exists_blanks text
    exact ⟨blanks, blank, by rw [← shows, ← shape]⟩
  · rintro ⟨blanks, blank, rfl⟩
    rw [skipBlanks_append blank, skipBlanks_cons solid]

theorem skipBlanks_mark {blanks : Text} (blank : Blanks blanks) {mark : Char}
    (solid : isBlank mark = false) (rest : Text) :
    skipBlanks (blanks ++ [mark] ++ rest) = mark :: rest :=
  (skipBlanks_eq_cons_iff solid).mpr ⟨blanks, blank, List.append_assoc blanks [mark] rest⟩

theorem readLiteral_eq_ok_iff {letters text rest : Text} :
    readLiteral letters text = .ok rest ↔ text = letters ++ rest := by
  induction letters generalizing text with
  | nil => simp [readLiteral]
  | cons letter letters ih =>
    cases text with
    | nil => simp [readLiteral]
    | cons char behind =>
      rw [readLiteral]
      split
      · rename_i same
        simp [ih, same]
      · rename_i other
        simp [other]

/-! ## Elements of a list -/

theorem skipBlanks_comma (rest : Text) : skipBlanks (',' :: rest) = ',' :: rest :=
  skipBlanks_cons (by decide) rest

theorem closeList_eq_ok_iff {text rest : Text} :
    closeList text = .ok rest ↔ skipBlanks text = ']' :: rest := by
  unfold closeList
  split
  · rename_i shape
    simp [shape]
  · rename_i char behind shape
    rw [shape]
    split
    · rename_i mark
      simp [mark]
    · rename_i other
      split
      · dsimp only
        split <;> simp [other]
      · simp [other]

theorem nextElement?_eq_none_iff {first : Bool} {text : Text} :
    nextElement? first text = .ok none ↔ ∃ rest, skipBlanks text = ']' :: rest := by
  unfold nextElement?
  split
  · rename_i shape
    simp [shape]
  · rename_i char behind shape
    rw [shape]
    split
    · rename_i mark
      simp [mark]
    · rename_i other
      repeat' split
      all_goals simp [other]

theorem exists_lead_of_nextElement? {first : Bool} {text element : Text}
    (found : nextElement? first text = .ok (some element)) :
    ∃ lead, SpellsLead first lead ∧ text = lead ++ element := by
  obtain ⟨blanks, blank, shape⟩ := exists_blanks text
  unfold nextElement? at found
  split at found
  · contradiction
  · rename_i char rest shows
    rw [shows] at shape
    split at found
    · simp at found
    · split at found
      · rename_i isFirst
        simp only [Except.ok.injEq, Option.some.injEq] at found
        exact ⟨blanks, isFirst ▸ .first blank, by rw [shape, found]⟩
      · rename_i notFirst
        split at found
        · rename_i comma
          obtain ⟨between, free, inner⟩ := exists_blanks rest
          split at found
          · contradiction
          · rename_i next behind shows
            split at found
            · contradiction
            · simp only [Except.ok.injEq, Option.some.injEq] at found
              rw [shows, found] at inner
              refine ⟨blanks ++ ',' :: between, ?_, by rw [shape, comma, inner]; simp⟩
              rw [Bool.not_eq_true] at notFirst
              exact notFirst ▸ .later blank free
        · contradiction

theorem nextElement?_append {first : Bool} {lead : Text} (before : SpellsLead first lead)
    {mark : Char} (solid : isBlank mark = false) (inner : mark ≠ ']') (rest : Text) :
    nextElement? first (lead ++ mark :: rest) = .ok (some (mark :: rest)) := by
  have bare := skipBlanks_cons solid rest
  cases before with
  | first blank => simp [nextElement?, skipBlanks_append blank, bare, inner]
  | later blank free =>
    rw [List.append_assoc, List.cons_append]
    simp [nextElement?, skipBlanks_append blank, skipBlanks_append free, skipBlanks_comma, bare,
      inner]

/-! ## Values -/

theorem readWordsFrom_close {first : Bool} {read : List Text} {text rest : Text}
    (shows : skipBlanks text = ']' :: rest) :
    readWordsFrom first read text = .ok (read.reverse, rest) := by
  have closed : nextElement? first text = .ok none := nextElement?_eq_none_iff.mpr ⟨rest, shows⟩
  rw [readWordsFrom]
  split <;> rename_i found <;> rw [closed] at found <;> cases found
  rw [closeList_eq_ok_iff.mpr shows]

theorem readWordsFrom_next {first : Bool} {read : List Text} {text inside word behind : Text}
    (found : nextElement? first text = .ok (some ('"' :: inside)))
    (taken : readQuoted inside = .ok (word, behind)) :
    readWordsFrom first read text = readWordsFrom false (word :: read) behind := by
  rw [readWordsFrom]
  split <;> rename_i other <;> rw [found] at other <;> cases other
  rw [if_pos rfl]
  split <;> rename_i other <;> rw [taken] at other <;> cases other
  rfl

/-- Strings are read up to the closing bracket. -/
theorem readWordsFrom_of_spellsUpTo {first : Bool} {words : List Text} {front : Text}
    (spelled : SpellsUpTo SpellsString ']' first words front) (read : List Text) (rest : Text) :
    readWordsFrom first read (front ++ rest) = .ok (read.reverse ++ words, rest) := by
  induction spelled generalizing read with
  | close blank =>
    rw [readWordsFrom_close (skipBlanks_mark blank (by decide) rest), List.append_nil]
  | @next first word words lead front behind before one more ih =>
    obtain ⟨inside, rfl⟩ := one.exists_inside
    have found : nextElement? first (lead ++ '"' :: (inside ++ (behind ++ rest))) = .ok (some _) :=
      nextElement?_append before (by decide) (by decide) _
    have taken := accepts_readQuoted.read_append one (behind ++ rest)
    rw [List.append_assoc, List.append_assoc, List.cons_append, readWordsFrom_next found taken, ih,
      List.reverse_cons, List.append_assoc, List.singleton_append]

/-- What is read up to the closing bracket is strings. -/
theorem spellsUpTo_of_readWordsFrom {first : Bool} {read words : List Text} {text rest : Text}
    (done : readWordsFrom first read text = .ok (words, rest)) :
    ∃ more front, words = read.reverse ++ more ∧ text = front ++ rest ∧
      SpellsUpTo SpellsString ']' first more front := by
  fun_induction readWordsFrom first read text with
  | case1 => contradiction
  | case2 => contradiction
  | case3 first read text closed behind passed =>
    cases done
    obtain ⟨blanks, blank, shape⟩ :=
      (skipBlanks_eq_cons_iff (by decide)).mp (closeList_eq_ok_iff.mp passed)
    exact ⟨[], blanks ++ [']'], by simp, by simp [shape], .close blank⟩
  | case4 => contradiction
  | case5 => contradiction
  | case6 first read text inside word behind taken shorter next less ih =>
    obtain ⟨lead, before, shape⟩ := exists_lead_of_nextElement? next
    obtain ⟨front, inner, one⟩ := accepts_readQuoted.exists_front taken
    obtain ⟨more, last, rfl, outer, spelled⟩ := ih done
    exact ⟨word :: more, lead ++ '"' :: front ++ last, by simp, by simp [shape, inner, outer],
      .next before one spelled⟩
  | case7 => contradiction

theorem accepts_readWords : Accepts readWords SpellsWords := by
  intro text words rest
  constructor
  · intro done
    unfold readWords at done
    split at done
    · obtain ⟨more, front, rfl, rfl, spelled⟩ := spellsUpTo_of_readWordsFrom done
      exact ⟨'[' :: front, rfl, .enclosed spelled⟩
    · contradiction
  · rintro ⟨_, rfl, ⟨spelled⟩⟩
    exact readWordsFrom_of_spellsUpTo spelled [] rest

theorem accepts_readFlag : Accepts readFlag SpellsFlag := by
  intro text flag rest
  constructor
  · intro done
    simp only [readFlag] at done
    split at done
    · split at done
      · contradiction
      · rename_i taken
        cases done
        exact ⟨_, congrArg _ (readLiteral_eq_ok_iff.mp taken), .yes⟩
    · split at done
      · contradiction
      · rename_i taken
        cases done
        exact ⟨_, congrArg _ (readLiteral_eq_ok_iff.mp taken), .no⟩
    · contradiction
  · rintro ⟨_, rfl, _ | _⟩
    · simp [readFlag, readLiteral]
    · simp [readFlag, readLiteral]

def BeginsWith (marks : List Char) (text : Text) : Prop :=
  ∃ mark ∈ marks, ∃ rest, text = mark :: rest

theorem SpellsWords.beginsWith {words : List Text} {text : Text}
    (spelled : SpellsWords words text) : BeginsWith ['[', 't', 'f'] text := by
  obtain ⟨_⟩ := spelled
  exact ⟨'[', by simp, _, rfl⟩

theorem SpellsFlag.beginsWith {flag : Bool} {text : Text} (spelled : SpellsFlag flag text) :
    BeginsWith ['[', 't', 'f'] text := by
  cases spelled
  · exact ⟨'t', by simp, _, rfl⟩
  · exact ⟨'f', by simp, _, rfl⟩

/-- A value that may be missing is read behind blanks, and told from `null` by how it begins. -/
theorem readOptional_eq_ok_iff {α : Type} {read : Text → Outcome α} {spells : α → Text → Prop}
    (accepts : Accepts read spells)
    (begins : ∀ {value text}, spells value text → BeginsWith ['[', 't', 'f'] text)
    {text rest : Text} {given : Option α} : readOptional read text = .ok (given, rest) ↔
      ∃ blanks front, Blanks blanks ∧ text = blanks ++ front ++ rest ∧
        SpellsOptional spells given front := by
  constructor
  · intro done
    obtain ⟨blanks, blank, shape⟩ := exists_blanks text
    unfold readOptional at done
    split at done
    · contradiction
    · rename_i char inside shows
      rw [shows] at shape
      split at done
      · rename_i null
        split at done
        · contradiction
        · rename_i behind taken
          cases done
          rw [readLiteral_eq_ok_iff] at taken
          exact ⟨blanks, ['n', 'u', 'l', 'l'], blank, by simp [shape, null, taken], .null⟩
      · split at done
        · contradiction
        · rename_i value behind taken
          cases done
          obtain ⟨front, whole, spelled⟩ := accepts.exists_front taken
          exact ⟨blanks, front, blank, by rw [shape, whole, List.append_assoc], .given spelled⟩
  · rintro ⟨blanks, front, blank, rfl, spelled⟩
    rw [List.append_assoc, readOptional, skipBlanks_append blank]
    cases spelled with
    | null => simp [skipBlanks, isBlank, readLiteral]
    | given spelled =>
      have taken := accepts.read_append spelled rest
      obtain ⟨mark, member, inside, rfl⟩ := begins spelled
      have solid : isBlank mark = false ∧ mark ≠ 'n' := by
        simp only [List.mem_cons, List.not_mem_nil, or_false] at member
        rcases member with rfl | rfl | rfl <;> decide
      rw [List.cons_append] at taken ⊢
      simp only [skipBlanks_cons solid.1, if_neg solid.2, taken]

end Munch.Settings
