import Munch.CommandLine

/-! # Runs over several files

What a file adds to a run depends on no other file, neither on those before it nor on those behind
it. So the run over two lists of files is the run over the first with that over the second behind it:
output behind output and lines behind lines, and it fails if either does. -/
set_option autoImplicit false

namespace Munch

attribute [ext] Outcome

namespace Outcome

/-- What was given first, and more behind it. -/
instance : Append Outcome where
  append first second :=
    ⟨first.output ++ second.output, first.notices ++ second.notices, first.failed || second.failed⟩

@[simp] theorem output_append (first second : Outcome) :
    (first ++ second).output = first.output ++ second.output := rfl

@[simp] theorem notices_append (first second : Outcome) :
    (first ++ second).notices = first.notices ++ second.notices := rfl

@[simp] theorem failed_append (first second : Outcome) :
    (first ++ second).failed = (first.failed || second.failed) := rfl

theorem append_empty (first : Outcome) : first ++ ({} : Outcome) = first := by
  ext <;> simp

theorem append_print (first sofar : Outcome) (text : Text) :
    (first ++ sofar).print text = first ++ sofar.print text := by
  ext <;> simp [print]

theorem append_notify (first sofar : Outcome) (notices : List Notice) :
    (first ++ sofar).notify notices = first ++ sofar.notify notices := by
  ext <;> simp [notify]

theorem append_fail (first sofar : Outcome) : (first ++ sofar).fail = first ++ sofar.fail := by
  ext <;> simp [fail]

end Outcome

/-! ## What one file adds -/

namespace Task

variable (toolbox : Toolbox) (task : Task) (filter : Log.Filter) (config : Config) (files : Files)

theorem conclude_append (file : Text) (lexed : Lexed) (first sofar : Outcome) :
    task.conclude file lexed (first ++ sofar) = first ++ task.conclude file lexed sofar := by
  unfold conclude
  split
  · split
    · exact first.append_notify sofar _
    · rfl
  · rw [first.append_notify, first.append_fail]

/-- A file adds to a run the same whatever was given before. -/
theorem runFile_append (first sofar : Outcome) (file : Text) :
    task.runFile toolbox filter config files (first ++ sofar) file =
      first ++ task.runFile toolbox filter config files sofar file := by
  unfold runFile
  cases files.text file with
  | error fault => simp only [first.append_notify, first.append_fail]
  | ok source => simp only [first.append_notify, first.append_print, conclude_append]

theorem foldl_runFile_append (names : List Text) (first sofar : Outcome) :
    names.foldl (task.runFile toolbox filter config files) (first ++ sofar) =
      first ++ names.foldl (task.runFile toolbox filter config files) sofar := by
  induction names generalizing sofar with
  | nil => rfl
  | cons file rest ih => rw [List.foldl_cons, List.foldl_cons, runFile_append, ih]

theorem runFiles_append (first second : List Text) :
    task.runFiles toolbox filter config files (first ++ second) =
      task.runFiles toolbox filter config files first ++
        task.runFiles toolbox filter config files second := by
  have later := foldl_runFile_append toolbox task filter config files second
    (task.runFiles toolbox filter config files first) {}
  rw [Outcome.append_empty] at later
  rw [runFiles, List.foldl_append]
  exact later

theorem runFiles_cons (file : Text) (rest : List Text) :
    task.runFiles toolbox filter config files (file :: rest) =
      task.runFiles toolbox filter config files [file] ++
        task.runFiles toolbox filter config files rest :=
  runFiles_append toolbox task filter config files [file] rest

end Task

/-! ## What fails -/

def Files.IsText (files : Files) (file : Text) : Prop :=
  ∃ bytes, files file = .ok bytes ∧ (String.fromUTF8? bytes).isSome = true

theorem Files.isText_iff {files : Files} {file : Text} :
    files.IsText file ↔ ∃ source, files.text file = .ok source := by
  unfold IsText Files.text
  cases files file with
  | error fault => simp
  | ok bytes => cases decoded : String.fromUTF8? bytes <;> simp [decoded]

def Files.Fails (files : Files) (config : Config) (file : Text) : Prop :=
  ¬ files.IsText file ∨
    ∃ source, files.text file = .ok source ∧ (lex config source).report.errors ≠ []

namespace Task

variable (toolbox : Toolbox) (task : Task) (filter : Log.Filter) (config : Config) (files : Files)

theorem failed_conclude (file : Text) (lexed : Lexed) (sofar : Outcome) :
    (task.conclude file lexed sofar).failed = true ↔
      sofar.failed = true ∨ lexed.report.errors ≠ [] := by
  rw [conclude, ne_eq, ← lexed.report.isEmpty_iff]
  cases lexed.report.isEmpty with
  | true =>
    rw [if_pos rfl]
    split <;> simp [Outcome.notify]
  | false => simp [Outcome.fail]

theorem failed_runFiles_singleton (file : Text) :
    (task.runFiles toolbox filter config files [file]).failed = true ↔ files.Fails config file := by
  simp only [runFiles, List.foldl_cons, List.foldl_nil, runFile, Files.Fails, Files.isText_iff]
  cases files.text file with
  | error fault => simp [Outcome.fail]
  | ok source => simp [failed_conclude, Outcome.print, Outcome.notify]

/-- A run fails if one of its files does, whatever its task is. -/
theorem failed_runFiles (names : List Text) :
    (task.runFiles toolbox filter config files names).failed = true ↔
      ∃ file ∈ names, files.Fails config file := by
  induction names with
  | nil => simp [runFiles]
  | cons file rest ih =>
    rw [runFiles_cons, Outcome.failed_append, Bool.or_eq_true, failed_runFiles_singleton, ih]
    simp

end Task

/-! ## What a run leaves -/

theorem unlines_append (first second : List Text) :
    unlines (first ++ second) = unlines first ++ unlines second := List.flatMap_append

namespace Outcome

theorem output_ending_append (first second : Outcome) :
    (first ++ second).ending.output = first.ending.output ++ second.ending.output := rfl

theorem errors_ending_append (first second : Outcome) :
    (first ++ second).ending.errors = first.ending.errors ++ second.ending.errors := by
  simp only [ending, notices_append, List.map_append, unlines_append]

theorem code_ending (outcome : Outcome) :
    outcome.ending.code = if outcome.failed then 1 else 0 := rfl

theorem code_ending_eq_one (outcome : Outcome) :
    outcome.ending.code = 1 ↔ outcome.failed = true := by
  rw [code_ending]
  cases outcome.failed <;> simp

end Outcome

/-- What the run of a task for files leaves, once its log is set up. -/
def Options.run (toolbox : Toolbox) (options : Options) (environment : Option Text) (files : Files)
    (task : Task) (names : List Text) : Ending :=
  (Command.mk task names options).run toolbox (options.log toolbox environment).filter files

namespace Options

variable {toolbox : Toolbox} {options : Options} {files : Files}

theorem run_of_loads {config : Config} (loads : options.config toolbox files = .ok config)
    (environment : Option Text) (task : Task) (names : List Text) :
    options.run toolbox environment files task names =
      (task.runFiles toolbox (options.log toolbox environment).filter config files
        names).ending := by
  simp only [run, Command.run, loads]

theorem run_of_fails {notice : Notice} (fails : options.config toolbox files = .error notice)
    (environment : Option Text) (task : Task) (names : List Text) :
    options.run toolbox environment files task names = ⟨2, [], unlines [notice.line]⟩ := by
  simp only [run, Command.run, fails]

def Unloadable (toolbox : Toolbox) (options : Options) (files : Files) : Prop :=
  ∃ file, options.settingsFile = some file ∧ (¬ files.IsText file ∨
    ∃ text error, files.text file = .ok text ∧
      Config.load toolbox.readSettings text = .error error)

theorem exists_error_of_unloadable (unloadable : options.Unloadable toolbox files) :
    ∃ notice, options.config toolbox files = .error notice := by
  obtain ⟨file, named, problem⟩ := unloadable
  simp only [config, named]
  rcases problem with noText | ⟨text, error, read, refused⟩
  · rw [Files.isText_iff] at noText
    cases read : files.text file with
    | error fault => exact ⟨_, rfl⟩
    | ok source => exact absurd ⟨source, read⟩ noText
  · rw [read]
    simp only [refused]
    exact ⟨_, rfl⟩

/-- The configuration of options depends on their settings file alone. -/
theorem config_congr (toolbox : Toolbox) (options : Options) {files other : Files}
    (same : ∀ file, options.settingsFile = some file → other file = files file) :
    options.config toolbox other = options.config toolbox files := by
  unfold config
  cases named : options.settingsFile with
  | none => rfl
  | some file => simp only [Files.text, same file named]

end Options

/-- Whether a task goes through files one by one under options: whatever the configuration is, a run
over two lists is put together from the runs over each, and without a configuration no file is
looked at. A command that is served leaves what its run leaves, behind the lines about its log. -/
structure FileByFile (toolbox : Toolbox) (options : Options) (environment : Option Text)
    (files : Files) (task : Task) : Prop where
  output : ∀ config, options.config toolbox files = .ok config → ∀ first second,
    (options.run toolbox environment files task (first ++ second)).output =
      (options.run toolbox environment files task first).output ++
        (options.run toolbox environment files task second).output
  errors : ∀ config, options.config toolbox files = .ok config → ∀ first second,
    (options.run toolbox environment files task (first ++ second)).errors =
      (options.run toolbox environment files task first).errors ++
        (options.run toolbox environment files task second).errors
  code : ∀ config, options.config toolbox files = .ok config → ∀ first second,
    ((options.run toolbox environment files task (first ++ second)).code = 1 ↔
      (options.run toolbox environment files task first).code = 1 ∨
        (options.run toolbox environment files task second).code = 1)
  single : ∀ config, options.config toolbox files = .ok config → ∀ file,
    ((options.run toolbox environment files task [file]).code = 1 ↔
      ¬ files.IsText file ∨
        ∃ source, files.text file = .ok source ∧ (lex config source).report.errors ≠ [])
  codes : ∀ config, options.config toolbox files = .ok config → ∀ names,
    (options.run toolbox environment files task names).code = 0 ∨
      (options.run toolbox environment files task names).code = 1
  unordered : ∀ config, options.config toolbox files = .ok config → ∀ first second,
    (∀ file, file ∈ first ↔ file ∈ second) →
      (options.run toolbox environment files task first).code =
        (options.run toolbox environment files task second).code
  unloadable : options.Unloadable toolbox files → ∀ names,
    (options.run toolbox environment files task names).code = 2 ∧
      (options.run toolbox environment files task names).output = []
  untouched : options.Unloadable toolbox files → ∀ names others elsewhere,
    (∀ file, options.settingsFile = some file → elsewhere file = files file) →
      options.run toolbox environment elsewhere task others =
        options.run toolbox environment files task names
  served : ∀ names, (Request.command ⟨task, names, options⟩).serve toolbox environment files =
    (options.run toolbox environment files task names).behind
      (options.log toolbox environment).notices

/-- Under all options, and with every toolbox, each task goes through its files one by one. -/
theorem fileByFile_run (toolbox : Toolbox) (options : Options) (environment : Option Text)
    (files : Files) (task : Task) : FileByFile toolbox options environment files task where
  output := by
    intro config loads first second
    simp only [Options.run_of_loads loads, Task.runFiles_append]
    exact Outcome.output_ending_append _ _
  errors := by
    intro config loads first second
    simp only [Options.run_of_loads loads, Task.runFiles_append]
    exact Outcome.errors_ending_append _ _
  code := by
    intro config loads first second
    simp only [Options.run_of_loads loads, Task.runFiles_append, Outcome.code_ending_eq_one,
      Outcome.failed_append, Bool.or_eq_true]
  single := by
    intro config loads file
    rw [Options.run_of_loads loads, Outcome.code_ending_eq_one]
    exact Task.failed_runFiles_singleton toolbox task _ config files file
  codes := by
    intro config loads names
    rw [Options.run_of_loads loads, Outcome.code_ending]
    split
    · exact Or.inr rfl
    · exact Or.inl rfl
  unordered := by
    intro config loads first second same
    have failed : ∀ filter, (task.runFiles toolbox filter config files first).failed =
        (task.runFiles toolbox filter config files second).failed := by
      intro filter
      rw [Bool.eq_iff_iff, Task.failed_runFiles, Task.failed_runFiles]
      simp only [same]
    simp only [Options.run_of_loads loads, Outcome.code_ending, failed]
  unloadable := by
    intro unloadable names
    obtain ⟨notice, fails⟩ := Options.exists_error_of_unloadable unloadable
    rw [Options.run_of_fails fails]
    exact ⟨rfl, rfl⟩
  untouched := by
    intro unloadable names others elsewhere same
    obtain ⟨notice, fails⟩ := Options.exists_error_of_unloadable unloadable
    have failsElsewhere := (options.config_congr toolbox same).trans fails
    rw [Options.run_of_fails fails, Options.run_of_fails failsElsewhere]
  served := fun _ => rfl

end Munch
