import Munch.Json
import Munch.Proofs.JsonForm

/-! # What is laid out is JSON

The layout of an output tree follows the rules for the value that the tree stands for: its numbers
are numerals, its strings are escaped where they must be, and blanks stand between marks only. -/
set_option autoImplicit false

namespace Munch

namespace Json

mutual

def value : Json → JsonValue
  | .number count => .number (Text.ofNat count)
  | .boolean flag => .boolean flag
  | .string content => .string content
  | .list elements => .list (values elements)
  | .object members => .object (namedValues members)

def values : List Json → List JsonValue
  | [] => []
  | element :: rest => element.value :: values rest

def namedValues : List (Text × Json) → List (Text × JsonValue)
  | [] => []
  | (name, content) :: rest => (name, content.value) :: namedValues rest

end

theorem length_values (elements : List Json) : (values elements).length = elements.length := by
  induction elements with
  | nil => rfl
  | cons element rest ih => rw [values, List.length_cons, List.length_cons, ih]

end Json

/-! ## Numbers -/

/-- The digits of a number that is not zero do not begin with a zero. -/
theorem head_toDigits_ne_zero (number : Nat) (positive : 0 < number) :
    (Nat.toDigits 10 number).head? ≠ some '0' := by
  induction number using Nat.strongRecOn with
  | _ number ih =>
    by_cases single : number < 10
    · have digits : ∀ digit < 10, 0 < digit → Nat.digitChar digit ≠ '0' := by decide
      rw [Nat.toDigits_of_lt_base single, List.head?_cons, ne_eq, Option.some.injEq]
      exact digits number single positive
    · have front : Nat.toDigits 10 (number / 10) ≠ [] := Nat.toDigits_ne_nil
      rw [Nat.toDigits_of_base_le (by decide) (Nat.not_lt.mp single), List.head?_append,
        List.head?_eq_some_head front, Option.some_or, ← List.head?_eq_some_head front]
      exact ih (number / 10) (by omega) (by omega)

theorem isNumeral_ofNat (number : Nat) : IsNumeral (Text.ofNat number) := by
  have isDigits : Numeral.IsDigits (Text.ofNat number) := by
    refine ⟨Nat.toDigits_ne_nil, ?_⟩
    intro char member
    exact Nat.isDigit_of_mem_toDigits (by decide) (by decide) member
  have isWhole : Numeral.IsWhole (Text.ofNat number) := by
    refine ⟨isDigits, ?_⟩
    intro zero
    rcases Nat.eq_zero_or_pos number with rfl | positive
    · rfl
    · exact absurd zero (head_toDigits_ne_zero number positive)
  have whole := IsNumeral.parts (.inl rfl) isWhole .none .none
  simpa using whole

namespace Json

/-! ## Strings -/

theorem spellsChar_escape (char : Char) : SpellsChar char (escape char) := by
  unfold escape
  iterate 7
    split
    · rename_i same
      exact .letter (by rw [same]; decide)
  rename_i mark backslash _ _ _ _ _
  split
  · rename_i control
    have zero : SpellsDigit 0 '0' := ⟨by decide, .inl rfl⟩
    have high : SpellsDigit (char.toNat / 16) (Nat.digitChar (char.toNat / 16)) :=
      ⟨by omega, .inl rfl⟩
    have low : SpellsDigit (char.toNat % 16) (Nat.digitChar (char.toNat % 16)) :=
      ⟨Nat.mod_lt _ (by decide), .inl rfl⟩
    have spelled := SpellsNumber.digits zero zero high low
    have whole : ((0 * 16 + 0) * 16 + char.toNat / 16) * 16 + char.toNat % 16 = char.toNat := by
      omega
    rw [whole] at spelled
    exact .number spelled
  · rename_i visible
    exact .plain ⟨mark, backslash, Nat.not_lt.mp visible⟩

theorem spellsString_quote (content : Text) : SpellsString content (quote content) := by
  have inside : SpellsChars content (content.flatMap escape) := by
    induction content with
    | nil => exact .nil
    | cons char rest ih =>
      rw [List.flatMap_cons]
      exact .cons (spellsChar_escape char) ih
  exact .quoted inside

/-! ## Lists and objects -/

theorem blanks_newline (level : Nat) : Blanks (newline level) := by
  intro char member
  rcases List.mem_cons.mp member with rfl | blank
  · decide
  · rw [List.eq_of_mem_replicate blank]
    decide

/-- The line break behind a comma stands before the value that follows. -/
theorem spellsLead_newline (level : Nat) : SpellsLead false ([] ++ ',' :: newline level) :=
  .later nofun (blanks_newline level)

theorem spellsUpTo_nil {α : Type} (spells : α → Text → Prop) (closing : Char) :
    SpellsUpTo spells closing true [] ([] ++ [closing]) :=
  .close nofun

theorem spellsNamed_quote {value : JsonValue} {text : Text} (written : value.Written text)
    (name : Text) :
    SpellsNamed JsonValue.Written (name, value) (quote name ++ [] ++ ':' :: [' '] ++ text) :=
  .named (spellsString_quote name) nofun (by simp [Blanks]) written

mutual

theorem written_layout (level : Nat) : ∀ json : Json, json.value.Written (json.layout level)
  | .number count => .number (isNumeral_ofNat count)
  | .boolean true => .boolean .yes
  | .boolean false => .boolean .no
  | .string content => .string (spellsString_quote content)
  | .list [] => .list (spellsUpTo_nil JsonValue.Written ']')
  | .list (element :: rest) => by
    have first := written_layout (level + 1) element
    have spelled := SpellsUpTo.next (.first (blanks_newline (level + 1))) first
      (spellsUpTo_layoutElements (level + 1) level rest)
    simpa [layout, value, values] using JsonValue.Written.list spelled
  | .object [] => .object (spellsUpTo_nil (SpellsNamed JsonValue.Written) '}')
  | .object ((name, content) :: rest) => by
    have first := spellsNamed_quote (written_layout (level + 1) content) name
    have spelled := SpellsUpTo.next (.first (blanks_newline (level + 1))) first
      (spellsUpTo_layoutMembers (level + 1) level rest)
    simpa [layout, value, namedValues] using JsonValue.Written.object spelled

theorem spellsUpTo_layoutElements (level outer : Nat) : ∀ elements : List Json,
    SpellsUpTo JsonValue.Written ']' false (values elements)
      (layoutElements level elements ++ (newline outer ++ [']']))
  | [] => .close (blanks_newline outer)
  | element :: rest => by
    have spelled := SpellsUpTo.next (spellsLead_newline level) (written_layout level element)
      (spellsUpTo_layoutElements level outer rest)
    simpa [layoutElements, values] using spelled

theorem spellsUpTo_layoutMembers (level outer : Nat) : ∀ members : List (Text × Json),
    SpellsUpTo (SpellsNamed JsonValue.Written) '}' false (namedValues members)
      (layoutMembers level members ++ (newline outer ++ ['}']))
  | [] => .close (blanks_newline outer)
  | (name, content) :: rest => by
    have first := spellsNamed_quote (written_layout level content) name
    have spelled := SpellsUpTo.next (spellsLead_newline level) first
      (spellsUpTo_layoutMembers level outer rest)
    simpa [layoutMembers, namedValues] using spelled

end

end Json

end Munch
