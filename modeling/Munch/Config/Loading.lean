import Munch.Config
import Munch.Settings.Reading

/-! # Loading a configuration

A configuration is loaded from the text of a settings file, by way of a reader of settings. The text
may be no settings, or the settings may name a word that cannot be reserved; the first is found
before the second. -/
set_option autoImplicit false

namespace Munch

inductive LoadError where
  | unreadable (problem : Settings.Problem) (place : Settings.Place)
  | unknownWord (word : Text)
deriving DecidableEq, Repr

def LoadError.message : LoadError → Text
  | .unreadable problem _ => "invalid lexer configuration: ".toList ++ problem.message
  | .unknownWord word => "unknown keyword in configuration: ".toList ++ word.quoted

def LoadError.display (error : LoadError) : Text :=
  match error with
  | .unreadable _ place => error.message ++ place.suffix
  | .unknownWord _ => error.message

abbrev Settings.Reader := Text → Except Settings.Failure Settings

def Config.load (read : Settings.Reader) (text : Text) : Except LoadError Config :=
  match read text with
  | .error failure => .error (.unreadable failure.problem (failure.place text))
  | .ok settings => (Config.ofSettings settings).mapError .unknownWord

def Config.ofText : Text → Except LoadError Config := load Settings.read

end Munch
