import Munch.Text

/-! # Command-line arguments

A command names a task and the files to do it for. Two options stand before the task or among its
files, each at most once in either place, and the later place wins. `--` ends the options. -/
set_option autoImplicit false

namespace Munch

inductive Task where
  | list (asJson : Bool)
  | check
deriving DecidableEq, Repr

def Task.ofName? (word : Text) : Option Task :=
  if word = "tokens".toList then some (.list false)
  else if word = "check".toList then some .check
  else none

structure Options where
  settingsFile : Option Text := none
  logFilter : Option Text := none
deriving DecidableEq, Repr

structure Command where
  task : Task
  files : List Text
  options : Options := {}
deriving DecidableEq, Repr

inductive Request where
  | version
  | command (command : Command)
deriving DecidableEq, Repr

inductive Argument where
  | endOfOptions
  | long (name : Text) (value : Option Text)
  | short (letters : Text)
  | plain (word : Text)
deriving DecidableEq, Repr

/-- The form of an argument. A single hyphen is a plain word. -/
def Argument.ofText : Text → Argument
  | ['-', '-'] => .endOfOptions
  | '-' :: '-' :: rest =>
    match rest.dropWhile (· ≠ '=') with
    | [] => .long rest none
    | _ :: value => .long (rest.takeWhile (· ≠ '=')) (some value)
  | '-' :: letter :: letters => .short (letter :: letters)
  | word => .plain word

def Argument.isValue (text : Text) : Bool :=
  match ofText text with
  | .plain _ => true
  | _ => false

namespace Options

def set? (options : Options) (name value : Text) : Option Options :=
  if name = "config".toList then
    if options.settingsFile.isSome || value.isEmpty then none
    else some { options with settingsFile := some value }
  else if name = "log-level".toList then
    if options.logFilter.isSome then none else some { options with logFilter := some value }
  else none

/-- The options of two places, the second of which wins. -/
def override (first second : Options) : Options where
  settingsFile := second.settingsFile.or first.settingsFile
  logFilter := second.logFilter.or first.logFilter

end Options

namespace Request

def finish? (task : Task) (options : Options) (files : List Text) : Option Request :=
  if files.isEmpty || files.any List.isEmpty then none
  else some (.command ⟨task, files, options⟩)

def ofTaskArguments? (before : Options) (task : Task) (options : Options) (files : List Text) :
    List Text → Option Request
  | [] => finish? task (before.override options) files.reverse
  | argument :: rest =>
    match Argument.ofText argument with
    | .endOfOptions => finish? task (before.override options) (files.reverse ++ rest)
    | .plain word => ofTaskArguments? before task options (word :: files) rest
    | .short _ => none
    | .long name (some value) =>
      match options.set? name value with
      | none => none
      | some options => ofTaskArguments? before task options files rest
    | .long name none =>
      if name = "json".toList ∧ task = .list false then
        ofTaskArguments? before (.list true) options files rest
      else
        match rest with
        | [] => none
        | value :: rest =>
          if Argument.isValue value then
            match options.set? name value with
            | none => none
            | some options => ofTaskArguments? before task options files rest
          else none

def ofArguments? (options : Options) : List Text → Option Request
  | [] => none
  | argument :: rest =>
    match Argument.ofText argument with
    | .endOfOptions => none
    | .plain word =>
      match Task.ofName? word with
      | none => none
      | some task => ofTaskArguments? options task {} [] rest
    | .short letters => if letters.head? = some 'V' then some .version else none
    | .long name (some value) =>
      match options.set? name value with
      | none => none
      | some options => ofArguments? options rest
    | .long name none =>
      if name = "version".toList then some .version
      else
        match rest with
        | [] => none
        | value :: rest =>
          if Argument.isValue value then
            match options.set? name value with
            | none => none
            | some options => ofArguments? options rest
          else none

end Request

end Munch
