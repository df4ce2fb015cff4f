import Munch.CharClass
import Munch.Text

/-! # Number literals

A number is a run of ASCII digits, with a fraction if a dot and another digit follow. What comes
next is no part of it, unless numbers are read strictly: then a number that runs into a name or a
second fraction is malformed, together with all that is glued to it. -/
set_option autoImplicit false

namespace Munch.Number

def startsFraction : Text → Bool
  | '.' :: char :: _ => isDigit char
  | _ => false

def wholePart (text : Text) : Text := text.takeWhile isDigit

/-- The dot and the digits at the front of a text, if a digit follows the dot. -/
def fractionPart (text : Text) : Text :=
  if startsFraction text then '.' :: (text.drop 1).takeWhile isDigit else []

/-- Whether what follows a number spoils it: a character of a name, or another fraction. -/
def hasMalformedTail : Text → Bool
  | [] => false
  | char :: rest =>
    if char = '.' then startsFraction (char :: rest) else isIdentifierContinue char

def acceptGlued (_ : Unit) (char : Char) (rest : Text) : Option Unit :=
  if isIdentifierContinue char || startsFraction (char :: rest) then some () else none

def gluedPart (text : Text) : Text := text.leading acceptGlued ()

inductive Reading where
  | whole (digits : Text)
  | fractional (digits : Text)
  | malformed (run : Text)
deriving DecidableEq, Repr

def Reading.text : Reading → Text
  | whole digits => digits
  | fractional digits => digits
  | malformed run => run

def read (strict : Bool) (text : Text) : Reading :=
  let whole := wholePart text
  let fraction := fractionPart (text.drop whole.length)
  let digits := whole ++ fraction
  let rest := text.drop digits.length
  if strict && hasMalformedTail rest then .malformed (digits ++ gluedPart rest)
  else if fraction.isEmpty then .whole digits
  else .fractional digits

theorem wholePart_isPrefix (text : Text) : wholePart text <+: text :=
  List.takeWhile_prefix isDigit

theorem fractionPart_isPrefix (text : Text) : fractionPart text <+: text := by
  unfold fractionPart
  split
  · rename_i starts
    cases text with
    | nil => simp [startsFraction] at starts
    | cons char rest =>
      have dot : char = '.' := by
        cases rest with
        | nil => simp [startsFraction] at starts
        | cons next rest =>
          by_cases same : char = '.'
          · exact same
          · simp [startsFraction, same] at starts
      subst dot
      exact List.cons_prefix_cons.mpr ⟨rfl, List.takeWhile_prefix isDigit⟩
  · exact List.nil_prefix

theorem gluedPart_isPrefix (text : Text) : gluedPart text <+: text :=
  Text.leading_isPrefix acceptGlued () text

theorem text_read_isPrefix (strict : Bool) (text : Text) : (read strict text).text <+: text := by
  have digits := Text.append_prefix_of_drop (wholePart_isPrefix text)
    (fractionPart_isPrefix (text.drop (wholePart text).length))
  simp only [read]
  split
  · exact Text.append_prefix_of_drop digits (gluedPart_isPrefix _)
  · split
    · exact digits
    · exact digits

theorem text_read_ne_nil (strict : Bool) {char : Char} (digit : isDigit char = true)
    (rest : Text) : (read strict (char :: rest)).text ≠ [] := by
  have whole : wholePart (char :: rest) ≠ [] := by simp [wholePart, digit]
  simp only [read]
  split
  · simp [Reading.text, whole]
  · split <;> simp [Reading.text, whole]

end Munch.Number
