import Munch.Proofs.JsonForm
import Munch.Settings
import Munch.Settings.Problem

/-! # The form of a settings file

Which texts are settings, and which settings they are, said without reading them: a grammar of the
part of JSON that settings are written in. Besides what JSON leaves open, the parts may stand in an
object or in a list, and a missing part is written by `null` or by nothing at all. -/
set_option autoImplicit false

namespace Munch.Settings

inductive SpellsOptional {α : Type} (spells : α → Text → Prop) : Option α → Text → Prop where
  | null : SpellsOptional spells none ['n', 'u', 'l', 'l']
  | given {value : α} {text : Text} (spelled : spells value text) :
      SpellsOptional spells (some value) text

def SpellsWords : List Text → Text → Prop := SpellsEnclosed SpellsString '[' ']'

inductive Part where
  | words (words : Option (List Text))
  | strictNumbers (strict : Option Bool)
deriving DecidableEq, Repr

def Part.field : Part → Field
  | .words _ => .words
  | .strictNumbers _ => .strictNumbers

inductive SpellsValue : Part → Text → Prop where
  | words {words : Option (List Text)} {text : Text}
      (spelled : SpellsOptional SpellsWords words text) : SpellsValue (.words words) text
  | strictNumbers {strict : Option Bool} {text : Text}
      (spelled : SpellsOptional SpellsFlag strict text) : SpellsValue (.strictNumbers strict) text

inductive SpellsMember : Part → Text → Prop where
  | named {part : Part} {key before between value : Text} (name : SpellsString part.field.name key)
      (blank : Blanks before) (free : Blanks between) (spelled : SpellsValue part value) :
      SpellsMember part (key ++ before ++ ':' :: between ++ value)

/-- Parts as an object, in any order but each field at most once, or as a list of values, in the
order of the fields. -/
inductive SpellsParts : List Part → Text → Prop where
  | object {parts : List Part} {text : Text}
      (spelled : SpellsEnclosed SpellsMember '{' '}' parts text)
      (once : (parts.map Part.field).Nodup) : SpellsParts parts text
  | list {parts : List Part} {text : Text} (spelled : SpellsEnclosed SpellsValue '[' ']' parts text)
      (ordered : parts.map Part.field <+: [.words, .strictNumbers]) : SpellsParts parts text

/-- What parts give: a list of words, a flag. A part that is `null` gives as little as one that is
missing, and the order does not matter. -/
structure Gives (parts : List Part) (settings : Settings) : Prop where
  words : ∀ listed, settings.words = some listed ↔ .words (some listed) ∈ parts
  strictNumbers : ∀ strict,
    settings.strictNumbers = some strict ↔ .strictNumbers (some strict) ∈ parts

inductive Spells : Settings → Text → Prop where
  | parts {settings : Settings} {parts : List Part} {before text behind : Text}
      (blank : Blanks before) (spelled : SpellsParts parts text) (free : Blanks behind)
      (gives : Gives parts settings) : Spells settings (before ++ text ++ behind)

end Munch.Settings
