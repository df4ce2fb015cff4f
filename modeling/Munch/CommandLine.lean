import Munch.Arguments
import Munch.Config.Loading
import Munch.Files
import Munch.Listing
import Munch.Log.Filter

/-! # The command line

A command loads its configuration and then goes through its files one after the other. It carries
along what was given so far: output, notices, and whether anything failed. A file that fails ends
nothing; the files behind it have their turn, and the exit code tells of it at the end. Settings,
JSON and log filters are left to a toolbox. -/
set_option autoImplicit false

namespace Munch

inductive Notice where
  | logged (event : Log.Event)
  | unreadable (file : Text) (fault : FileFault)
  | unloadable (file : Text) (error : LoadError)
  | diagnosed (file : Text) (error : LexError)
  | passed (file : Text) (count : Nat)
deriving DecidableEq, Repr

def Notice.line : Notice → Text
  | .logged event => event.line
  | .unreadable file fault => file ++ ": ".toList ++ fault.message
  | .unloadable file error => file ++ ": ".toList ++ error.display
  | .diagnosed file error => file ++ ':' :: error.line
  | .passed file count => file ++ ": ok (".toList ++ Text.ofNat count ++ " tokens)".toList

structure Outcome where
  output : Text := []
  notices : List Notice := []
  failed : Bool := false
deriving DecidableEq, Repr

namespace Outcome

def print (sofar : Outcome) (text : Text) : Outcome := { sofar with output := sofar.output ++ text }

def notify (sofar : Outcome) (notices : List Notice) : Outcome :=
  { sofar with notices := sofar.notices ++ notices }

def fail (sofar : Outcome) : Outcome := { sofar with failed := true }

end Outcome

/-- What a run leaves to others: to read settings, to write JSON, and to read log filters. A filter
is read strictly or leniently; in the second way what is no directive is passed over. -/
structure Toolbox where
  readSettings : Settings.Reader
  writeJson : Json → Text
  readFilter : Text → Option Log.Filter
  readFilterLeniently : Text → Log.Setup

def Toolbox.standard : Toolbox where
  readSettings := Settings.read
  writeJson := Json.layout 0
  readFilter := Log.Filter.ofText?
  readFilterLeniently := Log.Filter.ofTextLeniently

def Task.output (toolbox : Toolbox) (task : Task) (tokens : List Token) : Text :=
  match task with
  | .list true => jsonListing toolbox.writeJson tokens
  | .list false => lineListing tokens
  | .check => []

/-- Tells of the errors of a file, which make the run fail. Only a check says that there is none; the
closing token is not counted. -/
def Task.conclude (task : Task) (file : Text) (lexed : Lexed) (sofar : Outcome) : Outcome :=
  if lexed.report.isEmpty then
    if task = .check then sofar.notify [.passed file (lexed.tokens.length - 1)] else sofar
  else (sofar.notify (lexed.report.errors.map (.diagnosed file))).fail

def Task.runFile (toolbox : Toolbox) (task : Task) (filter : Log.Filter) (config : Config)
    (files : Files) (sofar : Outcome) (file : Text) : Outcome :=
  match files.text file with
  | .error fault => (sofar.notify [.unreadable file fault]).fail
  | .ok source =>
    let lexed := lex config source
    let events := (Log.tokenizing file :: Log.ofPass config source).filter filter
    task.conclude file lexed
      ((sofar.notify (events.map .logged)).print (task.output toolbox lexed.tokens))

def Task.runFiles (toolbox : Toolbox) (task : Task) (filter : Log.Filter) (config : Config)
    (files : Files) (names : List Text) : Outcome :=
  names.foldl (task.runFile toolbox filter config files) {}

def Options.config (toolbox : Toolbox) (options : Options) (files : Files) :
    Except Notice Config :=
  match options.settingsFile with
  | none => .ok .default
  | some file =>
    match files.text file with
    | .error fault => .error (.unreadable file fault)
    | .ok text => (Config.load toolbox.readSettings text).mapError (.unloadable file)

/-- The log of a command. Its own filter is read leniently, and that of the environment strictly; if
there is neither, or only one that cannot be read, warnings and errors are logged. -/
def Options.log (toolbox : Toolbox) (options : Options) (environment : Option Text) : Log.Setup :=
  match options.logFilter with
  | some text => toolbox.readFilterLeniently text
  | none =>
    match environment.bind toolbox.readFilter with
    | some filter => ⟨filter, []⟩
    | none => toolbox.readFilterLeniently "warn".toList

structure Ending where
  code : Nat
  output : Text
  errors : Text
deriving DecidableEq, Repr

def unlines (lines : List Text) : Text := lines.flatMap fun line => line ++ ['\n']

def Outcome.ending (outcome : Outcome) : Ending :=
  ⟨if outcome.failed then 1 else 0, outcome.output, unlines (outcome.notices.map Notice.line)⟩

def Ending.behind (ending : Ending) (lines : List Text) : Ending :=
  { ending with errors := unlines lines ++ ending.errors }

def Command.run (toolbox : Toolbox) (command : Command) (filter : Log.Filter) (files : Files) :
    Ending :=
  match command.options.config toolbox files with
  | .error notice => ⟨2, [], unlines [notice.line]⟩
  | .ok config => (command.task.runFiles toolbox filter config files command.files).ending

def versionLine : Text := "swiftlet-lex 0.1.0\n".toList

def Request.serve (toolbox : Toolbox) (request : Request) (environment : Option Text)
    (files : Files) : Ending :=
  match request with
  | .version => ⟨0, versionLine, []⟩
  | .command asked =>
    let log := asked.options.log toolbox environment
    (asked.run toolbox log.filter files).behind log.notices

def Request.run : Request → Option Text → Files → Ending := serve .standard

end Munch
