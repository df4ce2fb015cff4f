import Munch.Text

/-! # String literals

A string runs from its opening quotation mark to the next mark that no backslash escapes, and never
past a line feed. Four escapes are decoded; a backslash before any other character stays with it. -/
set_option autoImplicit false

namespace Munch.StringLiteral

/-- Whether a character belongs to the body of a string, given whether a backslash escapes it. The
answer says whether the next character is escaped. -/
def acceptBody (escaped : Bool) (char : Char) (_ : Text) : Option Bool :=
  if char = '\n' then none
  else if escaped then some false
  else if char = '"' then none
  else some (char == '\\')

/-- The body of a string whose opening mark stands before the text: what comes before the closing
mark, the line feed or the end. -/
def body (text : Text) : Text := text.leading acceptBody false

def unescape : Char → Text
  | 'n' => ['\n']
  | 't' => ['\t']
  | '"' => ['"']
  | '\\' => ['\\']
  | char => ['\\', char]

def decodeFrom (decoded : Text) : Text → Text
  | [] => decoded.reverse
  | [char] => (char :: decoded).reverse
  | char :: next :: rest =>
    if char = '\\' then decodeFrom ((unescape next).reverse ++ decoded) rest
    else decodeFrom (char :: decoded) (next :: rest)

def decode (text : Text) : Text := decodeFrom [] text

inductive Reading where
  | closed (body : Text)
  | unterminated (body : Text)
deriving DecidableEq, Repr

def Reading.text : Reading → Text
  | closed body => '"' :: body ++ ['"']
  | unterminated body => '"' :: body

def read (text : Text) : Reading :=
  let inside := body text
  if (text.drop inside.length).head? = some '"' then .closed inside else .unterminated inside

theorem body_isPrefix (text : Text) : body text <+: text :=
  Text.leading_isPrefix acceptBody false text

theorem text_read_isPrefix (text : Text) : (read text).text <+: '"' :: text := by
  simp only [read]
  split
  · rename_i mark
    refine List.cons_prefix_cons.mpr ⟨rfl, Text.append_prefix_of_drop (body_isPrefix text) ?_⟩
    cases behind : text.drop (body text).length with
    | nil => simp [behind] at mark
    | cons char rest =>
      simp only [behind, List.head?_cons, Option.some.injEq] at mark
      subst mark
      exact List.cons_prefix_cons.mpr ⟨rfl, List.nil_prefix⟩
  · exact List.cons_prefix_cons.mpr ⟨rfl, body_isPrefix text⟩

theorem text_read_ne_nil (text : Text) : (read text).text ≠ [] := by
  simp only [read]
  split <;> simp [Reading.text]

end Munch.StringLiteral
