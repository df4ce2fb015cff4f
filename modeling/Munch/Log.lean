import Munch.Lexed

/-! # The log of a pass

A pass logs its start, every item, and its end with the numbers of tokens and errors. Errors are
warnings; tokens are logged in the greatest detail only. -/
set_option autoImplicit false

namespace Munch

namespace Log

inductive Level where
  | error
  | warn
  | info
  | debug
  | trace
deriving DecidableEq, Repr

namespace Level

def detail : Level → Nat
  | error => 1
  | warn => 2
  | info => 3
  | debug => 4
  | trace => 5

/-- A level at the front of a line, five columns wide. -/
def label : Level → Text
  | error => "ERROR".toList
  | warn => " WARN".toList
  | info => " INFO".toList
  | debug => "DEBUG".toList
  | trace => "TRACE".toList

end Level

structure Event where
  level : Level
  target : Text
  message : Text
  fields : List (Text × Text)
deriving DecidableEq, Repr

def lexerTarget : Text := "swiftlet::lexer".toList

def commandTarget : Text := "swiftlet::cli".toList

def Event.line (event : Event) : Text :=
  event.level.label ++ ' ' :: event.target ++ ": ".toList ++ event.message ++
    event.fields.flatMap fun (name, value) => ' ' :: name ++ '=' :: value

def placeFields (position : Position) : List (Text × Text) :=
  [("line".toList, Text.ofNat position.line), ("column".toList, Text.ofNat position.column)]

def started (source : Text) : Event where
  level := .debug
  target := lexerTarget
  message := "starting tokenization".toList
  fields := [("bytes".toList, Text.ofNat source.utf8Length)]

def given : Item → Event
  | .token token =>
    ⟨.trace, lexerTarget, "token".toList,
      ("kind".toList, token.kind.detailed) :: ("lexeme".toList, token.lexeme) ::
        placeFields token.start⟩
  | .error error => ⟨.warn, lexerTarget, error.fault.message, placeFields error.position⟩

def finished (stream : Stream) : Event where
  level := .debug
  target := lexerTarget
  message := "tokenization finished".toList
  fields := [("tokens".toList, Text.ofNat stream.produced),
    ("errors".toList, Text.ofNat stream.report.size)]

def ofPass (config : Config) (source : Text) : List Event :=
  let (items, behind) := (Stream.ofText config source).drain
  started source :: items.map given ++ [finished behind]

def tokenizing (file : Text) : Event where
  level := .info
  target := commandTarget
  message := "tokenizing".toList
  fields := [("file".toList, file)]

end Log

end Munch
