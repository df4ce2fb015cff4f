import Munch.CharClass
import Munch.Log

/-! # Log filters

A filter says which events are logged. It is written as directives between commas, each of which
lets the events of a target through up to a level. The directive with the longest target that begins
the event's target decides; where none fits, nothing is logged. -/
set_option autoImplicit false

namespace Munch.Log

abbrev Filter := Event → Bool

/-! ## Directives -/

abbrev Threshold := Option Level

namespace Threshold

def named : List (Text × Threshold) :=
  [("off".toList, none), ("error".toList, some .error), ("warn".toList, some .warn),
    ("info".toList, some .info), ("debug".toList, some .debug), ("trace".toList, some .trace)]

/-- The threshold of a number, which may have a plus sign and needless zeros. -/
def ofNumber? (word : Text) : Option Threshold :=
  let digits := if word.head? = some '+' then word.tail else word
  if digits ≠ [] ∧ digits.all Char.isDigit then
    named[Nat.ofDigitChars 10 digits 0]?.map Prod.snd
  else none

def ofText? (word : Text) : Option Threshold :=
  (ofNumber? word).or (named.lookup (word.map Char.toLower))

end Threshold

/-- A threshold for the targets that begin with a text. One for what happens within spans does not
matter here, for nothing is logged in one. -/
structure Directive where
  target : Text
  threshold : Threshold
  withinSpans : Bool := false
deriving DecidableEq, Repr

namespace Directive

inductive Fault where
  | shape
  | level
deriving DecidableEq, Repr

def Fault.message : Fault → Text
  | shape => "invalid filter directive".toList
  | level => "error parsing level filter: expected one of \"off\", \"error\", \"warn\", ".toList ++
      "\"info\", \"debug\", \"trace\", or a number 0-5".toList

def threshold? : Text → Except Fault Threshold
  | [] | ['='] => .ok (some .trace)
  | '=' :: level =>
    match Threshold.ofText? level with
    | some threshold => .ok threshold
    | none => .error .level
  | _ => .error .shape

def isOpening (char : Char) : Bool :=
  isAlphabetic char || isNumeric char || char ∈ ['-', ':', '_', '[']

/-- The directive of a text: a target, spans in brackets, an equals sign and a level, each of which
may be missing. A level alone is for every target. -/
def ofText? (text : Text) : Except Fault Directive :=
  if text.head?.any isOpening then
    let target := text.takeWhile fun char => char ≠ '=' ∧ char ≠ '['
    match text.drop target.length with
    | [] =>
      match Threshold.ofText? target with
      | some threshold => .ok ⟨[], threshold, false⟩
      | none => .ok ⟨target, some .trace, false⟩
    | '[' :: spans =>
      match spans.dropWhile (· ≠ ']') with
      | [] => .error .shape
      | _ :: behind => (threshold? behind).map fun threshold => ⟨target, threshold, true⟩
    | behind => (threshold? behind).map fun threshold => ⟨target, threshold, false⟩
  else .error .shape

/-- The better directive of two that fit: the one with the longer target, and the second of
equals. -/
def better (found : Option Directive) (next : Directive) : Option Directive :=
  match found with
  | none => some next
  | some directive =>
    if next.target.length < directive.target.length then some directive else some next

def fits (target : Text) (directive : Directive) : Bool :=
  !directive.withinSpans && directive.target.isPrefixOf target

end Directive

/-! ## Filters -/

structure Setup where
  filter : Filter
  notices : List Text := []

namespace Filter

/-- Without any directive, only errors are let through. -/
def ofDirectives (directives : List Directive) : Filter := fun event =>
  let given := if directives = [] then [⟨[], some .error, false⟩] else directives
  let fitting := given.filter (Directive.fits event.target)
  match (fitting.foldl Directive.better none).bind Directive.threshold with
  | none => false
  | some most => event.level.detail ≤ most.detail

def pieces (text : Text) : List Text := (text.split ',').filter (· ≠ [])

def ofText? (text : Text) : Option Filter :=
  ((pieces text).mapM fun piece => (Directive.ofText? piece).toOption).map ofDirectives

def ofTextLeniently (text : Text) : Setup :=
  let directives := (pieces text).filterMap fun piece => (Directive.ofText? piece).toOption
  let ignored := (pieces text).filterMap fun piece =>
    match Directive.ofText? piece with
    | .ok _ => none
    | .error fault => some ("ignoring \x60".toList ++ piece ++ "\x60: ".toList ++ fault.message)
  ⟨ofDirectives directives, ignored⟩

end Filter

end Munch.Log
