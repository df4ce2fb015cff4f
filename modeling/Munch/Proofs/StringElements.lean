import Munch.Proofs.Fronts
import Munch.StringLiteral

/-! # The elements of a string

The body of a string is a sequence of elements: a backslash with the character it escapes, or one
plain character. No element is, or holds, the line feed, so a body never leaves its line. Every text
splits into elements and what stops them: the closing mark, a line feed, the end, or a backslash
that stands directly before one of the last two. -/
set_option autoImplicit false

namespace Munch.StringLiteral

inductive Element where
  | plain (char : Char) (free : char ≠ '"' ∧ char ≠ '\\' ∧ char ≠ '\n')
  | escape (char : Char) (inLine : char ≠ '\n')

def Element.text : Element → Text
  | plain char _ => [char]
  | escape char _ => ['\\', char]

def Element.content : Element → Text
  | plain char _ => [char]
  | escape char _ => unescape char

def written (elements : List Element) : Text := elements.flatMap Element.text

def contents (elements : List Element) : Text := elements.flatMap Element.content

@[simp] theorem written_nil : written [] = [] := rfl

@[simp] theorem written_cons (element : Element) (rest : List Element) :
    written (element :: rest) = element.text ++ written rest := rfl

theorem newline_not_mem_written (elements : List Element) : '\n' ∉ written elements := by
  intro member
  obtain ⟨element, -, inside⟩ := List.mem_flatMap.mp member
  cases element with
  | plain char free =>
    simp only [Element.text, List.mem_singleton] at inside
    exact free.2.2 inside.symm
  | escape char inLine =>
    simp only [Element.text, List.mem_cons, List.not_mem_nil, or_false] at inside
    rcases inside with backslash | same
    · exact absurd backslash (by decide)
    · exact inLine same.symm

theorem body_written_append (elements : List Element) (behind : Text) :
    body (written elements ++ behind) = written elements ++ body behind := by
  induction elements with
  | nil => rfl
  | cons element rest ih =>
    cases element with
    | plain char free =>
      obtain ⟨noMark, noBackslash, noFeed⟩ := free
      have accepted : acceptBody false char (written rest ++ behind) = some false := by
        simp [acceptBody, noMark, noBackslash, noFeed]
      simp only [written_cons, Element.text, List.cons_append, List.nil_append]
      rw [body, Text.leading_cons, accepted]
      exact congrArg (List.cons char) ih
    | escape char inLine =>
      have escaped : acceptBody true char (written rest ++ behind) = some false := by
        simp [acceptBody, inLine]
      have opens : acceptBody false '\\' (char :: (written rest ++ behind)) = some true := rfl
      simp only [written_cons, Element.text, List.cons_append, List.nil_append]
      rw [body, Text.leading_cons, opens]
      simp only [List.cons.injEq, true_and]
      rw [Text.leading_cons, escaped]
      exact congrArg (List.cons char) ih

theorem body_eq_nil {text : Text} (stops : text.begins (· != '\n') = false) : body text = [] := by
  rcases Text.begins_ne_eq_false_iff.mp stops with rfl | ⟨rest, rfl⟩
  · rfl
  · rfl

/-- A backslash with nothing to escape is the last character of a body. -/
theorem body_backslash {behind : Text} (stops : behind.begins (· != '\n') = false) :
    body ('\\' :: behind) = ['\\'] := by
  rcases Text.begins_ne_eq_false_iff.mp stops with rfl | ⟨rest, rfl⟩
  · rfl
  · rfl

/-- The body of a string that is not closed: elements, and perhaps a backslash that has nothing to
escape. -/
inductive OpenBody : Text → Prop where
  | whole (elements : List Element) : OpenBody (written elements)
  | hanging (elements : List Element) : OpenBody (written elements ++ ['\\'])

theorem OpenBody.body_append {inside : Text} (isOpen : OpenBody inside) {behind : Text}
    (stops : behind.begins (· != '\n') = false) : body (inside ++ behind) = inside := by
  cases isOpen with
  | whole elements => rw [body_written_append, body_eq_nil stops, List.append_nil]
  | hanging elements =>
    rw [List.append_assoc, body_written_append]
    exact congrArg (written elements ++ ·) (body_backslash stops)

theorem OpenBody.newline_not_mem {inside : Text} (isOpen : OpenBody inside) : '\n' ∉ inside := by
  cases isOpen with
  | whole elements => exact newline_not_mem_written elements
  | hanging elements =>
    intro member
    rcases List.mem_append.mp member with inner | backslash
    · exact newline_not_mem_written elements inner
    · exact absurd (List.mem_singleton.mp backslash) (by decide)

theorem OpenBody.cons (element : Element) {inside : Text} (isOpen : OpenBody inside) :
    OpenBody (element.text ++ inside) := by
  cases isOpen with
  | whole elements => exact .whole (element :: elements)
  | hanging elements =>
    rw [← List.append_assoc]
    exact .hanging (element :: elements)

/-- A body that is not closed goes on with a character of the line: a backslash at its end escapes it,
and otherwise it is plain. -/
theorem OpenBody.append_char {inside : Text} (isOpen : OpenBody inside) {char : Char}
    (noMark : char ≠ '"') (noBackslash : char ≠ '\\') (inLine : char ≠ '\n') :
    OpenBody (inside ++ [char]) := by
  cases isOpen with
  | whole elements =>
    have longer := OpenBody.whole (elements ++ [.plain char ⟨noMark, noBackslash, inLine⟩])
    rw [written, List.flatMap_append] at longer
    exact longer
  | hanging elements =>
    have longer := OpenBody.whole (elements ++ [.escape char inLine])
    rw [written, List.flatMap_append] at longer
    rw [List.append_assoc]
    exact longer

/-- A text behind an opening mark: elements and a closing mark, or an open body and the end of the
line. -/
inductive AfterMark : Text → Prop where
  | closed (elements : List Element) (behind : Text) :
      AfterMark (written elements ++ '"' :: behind)
  | unclosed {inside behind : Text} (isOpen : OpenBody inside)
      (stops : behind.begins (· != '\n') = false) : AfterMark (inside ++ behind)

theorem AfterMark.cons (element : Element) {text : Text} (after : AfterMark text) :
    AfterMark (element.text ++ text) := by
  cases after with
  | closed elements behind =>
    rw [← List.append_assoc]
    exact .closed (element :: elements) behind
  | unclosed isOpen stops =>
    rw [← List.append_assoc]
    exact .unclosed (isOpen.cons element) stops

theorem afterMark (text : Text) : AfterMark text := by
  induction size : text.length using Nat.strongRecOn generalizing text with
  | ind size ih =>
    subst size
    cases text with
    | nil => exact @AfterMark.unclosed [] [] (.whole []) rfl
    | cons char rest =>
      by_cases newline : char = '\n'
      · subst newline
        exact @AfterMark.unclosed [] ('\n' :: rest) (.whole []) rfl
      by_cases mark : char = '"'
      · subst mark
        exact .closed [] rest
      by_cases backslash : char = '\\'
      · subst backslash
        cases rest with
        | nil => exact @AfterMark.unclosed ['\\'] [] (.hanging []) rfl
        | cons next rest =>
          by_cases feed : next = '\n'
          · subst feed
            exact @AfterMark.unclosed ['\\'] ('\n' :: rest) (.hanging []) rfl
          · have shorter : rest.length < ('\\' :: next :: rest).length := by
              simp only [List.length_cons]
              omega
            exact (ih rest.length shorter rest rfl).cons (.escape next feed)
      · have after := ih rest.length (by simp) rest rfl
        exact after.cons (.plain char ⟨mark, backslash, newline⟩)

theorem decodeFrom_written (elements : List Element) (decoded : Text) :
    decodeFrom decoded (written elements) = decoded.reverse ++ contents elements := by
  induction elements generalizing decoded with
  | nil => simp [decodeFrom, contents]
  | cons element rest ih =>
    cases element with
    | plain char free =>
      have step : decodeFrom decoded (char :: written rest) =
          decodeFrom (char :: decoded) (written rest) := by
        cases written rest with
        | nil => rfl
        | cons next more => rw [decodeFrom, if_neg free.2.1]
      simp only [written_cons, Element.text, List.cons_append, List.nil_append]
      rw [step, ih]
      simp [contents, Element.content]
    | escape char inLine =>
      simp only [written_cons, Element.text, List.cons_append, List.nil_append]
      rw [decodeFrom, if_pos rfl, ih]
      simp [contents, Element.content]

theorem decode_written (elements : List Element) :
    decode (written elements) = contents elements := by
  rw [decode, decodeFrom_written]
  rfl

/-! ## The reading of a string -/

theorem read_closed (elements : List Element) (behind : Text) :
    read (written elements ++ '"' :: behind) = .closed (written elements) := by
  have inside : body (written elements ++ '"' :: behind) = written elements := by
    have none : body ('"' :: behind) = [] := rfl
    rw [body_written_append, none, List.append_nil]
  simp [read, inside]

theorem read_unterminated {inside : Text} (isOpen : OpenBody inside) {behind : Text}
    (stops : behind.begins (· != '\n') = false) :
    read (inside ++ behind) = .unterminated inside := by
  have noMark : behind.head? ≠ some '"' := by
    rcases Text.begins_ne_eq_false_iff.mp stops with rfl | ⟨rest, rfl⟩
    · simp
    · simp
  rw [read, isOpen.body_append stops]
  simp [noMark]

end Munch.StringLiteral
