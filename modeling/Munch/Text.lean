/-! # Text as a list of characters

Source text, lexemes and everything that is printed are lists of characters; strings occur only
where a program reads or writes. The scanner asks one question of a text again and again: which
characters at its front belong to what is being read? `Text.leading` answers it for a test that
carries a state and may look at the text behind the character, and the lemmas below give its two
equations and say that the answer is a prefix. -/
set_option autoImplicit false

namespace Munch

abbrev Text := List Char

namespace Text

def utf8Length (text : Text) : Nat :=
  text.foldr (fun char bytes => char.utf8Size + bytes) 0

def ofNat (number : Nat) : Text := Nat.toDigits 10 number

def split (separator : Char) : Text → List Text
  | [] => [[]]
  | char :: rest =>
    if char = separator then [] :: split separator rest
    else
      match split separator rest with
      | [] => [[char]]
      | piece :: pieces => (char :: piece) :: pieces

variable {σ : Type}

def leadingFrom (accept : σ → Char → Text → Option σ) : σ → Text → Text → Text
  | _, passed, [] => passed.reverse
  | state, passed, char :: rest =>
    match accept state char rest with
    | none => passed.reverse
    | some next => leadingFrom accept next (char :: passed) rest

/-- The characters at the front of the text that the test accepts, asked in order with the state
left by the one before and the text behind the character. -/
def leading (accept : σ → Char → Text → Option σ) (state : σ) (text : Text) : Text :=
  leadingFrom accept state [] text

theorem leadingFrom_eq (accept : σ → Char → Text → Option σ) (state : σ) (passed text : Text) :
    leadingFrom accept state passed text = passed.reverse ++ leading accept state text := by
  induction text generalizing state passed with
  | nil => simp [leading, leadingFrom]
  | cons char rest ih =>
    simp only [leading, leadingFrom]
    cases accept state char rest with
    | none => simp
    | some next => simp [ih next (char :: passed), ih next [char]]

@[simp] theorem leading_nil (accept : σ → Char → Text → Option σ) (state : σ) :
    leading accept state [] = [] := rfl

theorem leading_cons (accept : σ → Char → Text → Option σ) (state : σ) (char : Char)
    (rest : Text) : leading accept state (char :: rest) =
      match accept state char rest with
      | none => []
      | some next => char :: leading accept next rest := by
  simp only [leading, leadingFrom]
  cases accept state char rest with
  | none => rfl
  | some next => simp [leadingFrom_eq accept next [char] rest, leading]

theorem leading_isPrefix (accept : σ → Char → Text → Option σ) (state : σ) (text : Text) :
    leading accept state text <+: text := by
  induction text generalizing state with
  | nil => simp
  | cons char rest ih =>
    rw [leading_cons]
    cases accept state char rest with
    | none => exact List.nil_prefix
    | some next => exact List.cons_prefix_cons.mpr ⟨rfl, ih next⟩

theorem append_prefix_of_drop {first second text : Text} (front : first <+: text)
    (behind : second <+: text.drop first.length) : first ++ second <+: text := by
  obtain ⟨rest, rfl⟩ := front
  rw [List.drop_left] at behind
  exact (List.prefix_append_right_inj first).mpr behind

end Text

end Munch
