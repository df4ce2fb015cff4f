import Munch.Text

/-! # What a text begins with

Where a reading stops is decided by the character behind it. `Text.begins` asks a text for its first
character, and a reader that takes all characters of a class takes exactly the body of
`body ++ behind` if the body is of the class and `behind` does not begin with it. -/
set_option autoImplicit false

namespace Munch.Text

def begins (test : Char → Bool) (text : Text) : Bool := text.head?.any test

@[simp] theorem begins_nil (test : Char → Bool) : begins test [] = false := rfl

@[simp] theorem begins_cons (test : Char → Bool) (char : Char) (rest : Text) :
    begins test (char :: rest) = test char := rfl

theorem head?_append {text : Text} (some : text ≠ []) (behind : Text) :
    (text ++ behind).head? = text.head? := by
  cases text with
  | nil => exact absurd rfl some
  | cons char rest => rfl

theorem begins_append (test : Char → Bool) {text : Text} (some : text ≠ []) (behind : Text) :
    begins test (text ++ behind) = begins test text := by
  rw [begins, begins, head?_append some behind]

theorem drop_length_of_append {text front behind : Text} (same : text = front ++ behind) :
    text.drop front.length = behind := by
  rw [same, List.drop_left]

theorem begins_weaken {test weaker : Char → Bool} {text : Text}
    (weakens : ∀ char, weaker char = false → test char = false)
    (stops : begins weaker text = false) : begins test text = false := by
  cases text with
  | nil => rfl
  | cons char rest => exact weakens char stops

theorem takeWhile_append_of_begins {test : Char → Bool} {body behind : Text}
    (inside : ∀ char ∈ body, test char = true) (stops : begins test behind = false) :
    (body ++ behind).takeWhile test = body := by
  rw [List.takeWhile_append_of_pos inside]
  have outside : behind.takeWhile test = [] := by
    cases behind with
    | nil => rfl
    | cons char rest =>
      rw [List.takeWhile_cons]
      rw [begins_cons] at stops
      simp [stops]
  rw [outside, List.append_nil]

theorem exists_span (test : Char → Bool) (text : Text) :
    ∃ body behind, text = body ++ behind ∧ (∀ char ∈ body, test char = true) ∧
      begins test behind = false := by
  induction text with
  | nil => exact ⟨[], [], rfl, by simp, rfl⟩
  | cons char rest ih =>
    cases passes : test char with
    | false => exact ⟨[], char :: rest, rfl, by simp, by simp [passes]⟩
    | true =>
      obtain ⟨body, behind, rfl, inside, stops⟩ := ih
      refine ⟨char :: body, behind, rfl, ?_, stops⟩
      intro c member
      rcases List.mem_cons.mp member with rfl | member
      · exact passes
      · exact inside c member

theorem exists_span_ne (stop : Char) (text : Text) :
    ∃ body behind, text = body ++ behind ∧ stop ∉ body ∧ begins (· != stop) behind = false := by
  obtain ⟨body, behind, same, inside, stops⟩ := exists_span (· != stop) text
  refine ⟨body, behind, same, ?_, stops⟩
  intro member
  have different := inside stop member
  simp at different

theorem begins_ne_eq_false_iff {stop : Char} {text : Text} :
    begins (· != stop) text = false ↔ text = [] ∨ ∃ rest, text = stop :: rest := by
  cases text with
  | nil => simp
  | cons char rest => simp

end Munch.Text
