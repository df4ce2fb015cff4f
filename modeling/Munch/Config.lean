import Munch.ReservedWord
import Munch.Settings

/-! # Lexer configuration

A configuration says which words are reserved and whether numbers are read strictly. It is changed
by edits, one after the other, or made whole from settings. -/
set_option autoImplicit false

namespace Munch

structure Config where
  reserved : WordSet := .full
  strictNumbers : Bool := false
deriving DecidableEq

inductive Edit where
  | clearWords
  | reserve (word : Keyword)
  | release (word : Keyword)
  | booleans (enabled : Bool)
  | strictNumbers (strict : Bool)
deriving DecidableEq, Repr

namespace Config

def default : Config := {}

def lookup (config : Config) (word : Text) : Option ReservedWord :=
  config.reserved.words.find? fun reserved => reserved.spelling == word

def kindOf (config : Config) (word : Text) : Kind :=
  match config.lookup word with
  | some reserved => reserved.kind
  | none => .identifier

def edit (config : Config) : Edit → Config
  | .clearWords => { config with reserved := .empty }
  | .reserve word => { config with reserved := config.reserved.insert (.keyword word) }
  | .release word => { config with reserved := config.reserved.erase (.keyword word) }
  | .booleans true =>
    { config with reserved := (config.reserved.insert (.boolean true)).insert (.boolean false) }
  | .booleans false =>
    { config with reserved := (config.reserved.erase (.boolean true)).erase (.boolean false) }
  | .strictNumbers strict => { config with strictNumbers := strict }

def build (edits : List Edit) : Config := edits.foldl edit default

def reserveAll (set : WordSet) : List Text → Except Text WordSet
  | [] => .ok set
  | word :: rest =>
    match ReservedWord.ofSpelling? word with
    | none => .error word
    | some reserved => reserveAll (set.insert reserved) rest

/-- The configuration of settings. A list of words replaces the default words; an unknown
word in it is the error. -/
def ofSettings (settings : Settings) : Except Text Config := do
  let reserved ← match settings.words with
    | none => .ok WordSet.full
    | some words => reserveAll .empty words
  return ⟨reserved, settings.strictNumbers.getD false⟩

end Config

end Munch
