import Munch.Proofs.Bookkeeping
import Munch.Proofs.JsonElements
import Munch.Proofs.JsonLayout
import Munch.Proofs.Lines
import Munch.Proofs.PrintedForms
import Munch.Proofs.Runs

/-! # What the tasks have in common

Listing tokens, listing them as JSON and checking differ in their output alone, and in that a check
says of a file that it is without errors. All else that they tell of a file is the same: why it has
no text, what is logged, and the report of its errors, line by line. Since no line of a report or of
a listing holds a line feed, these lines can be counted and found again in what is printed. -/
set_option autoImplicit false

namespace Munch

/-! ## What is printed on one line -/

theorem LexError.newline_not_mem_line (error : LexError) : '\n' ∉ error.line :=
  error.printable_line.not_mem (by decide)

theorem LexError.line_ne_nil (error : LexError) : error.line ≠ [] := by
  simp [line, Position.display]

theorem Token.newline_not_mem_line (token : Token) : '\n' ∉ token.line := by
  have feed : isUnprintable '\n' = true := by decide
  simp [line, token.start.printable_display.not_mem feed, token.kind.printable_name.not_mem feed,
    (Text.printable_quoted token.lexeme).not_mem feed]

/-- A listing has as many lines as tokens. -/
theorem count_lineListing (tokens : List Token) :
    (lineListing tokens).count '\n' = tokens.length := by
  induction tokens with
  | nil => rfl
  | cons token rest ih =>
    have line := List.count_eq_zero_of_not_mem token.newline_not_mem_line
    rw [lineListing] at ih
    rw [lineListing, List.flatMap_cons, List.count_append, List.count_append, line, ih,
      List.length_cons]
    simp [Nat.add_comm]

/-! ## The lines of a report -/

/-- The lines of a text, with a line feed between one and the next. An empty text has none. -/
def Text.lines (text : Text) : List Text := if text = [] then [] else text.split '\n'

theorem Text.split_intercalate (separator : Char) (first : Text) (rest : List Text)
    (apart : ∀ piece ∈ first :: rest, separator ∉ piece) :
    Text.split separator (List.intercalate [separator] (first :: rest)) = first :: rest := by
  induction rest generalizing first with
  | nil =>
    rw [List.intercalate_singleton]
    exact Text.split_of_not_mem (apart first List.mem_cons_self)
  | cons second rest ih =>
    have later := ih second fun piece member => apart piece (List.mem_cons_of_mem first member)
    rw [List.intercalate_cons_cons, List.append_assoc, List.singleton_append,
      Text.split_append (apart first List.mem_cons_self), later]

/-- The lines of a report as it is displayed are the lines of its errors. -/
theorem Report.lines_display (report : Report) :
    report.display.lines = report.errors.map LexError.line := by
  rw [display, Report.lines]
  cases report.errors with
  | nil => rfl
  | cons first rest =>
    have apart : ∀ piece ∈ (first :: rest).map LexError.line, '\n' ∉ piece := by
      intro piece member
      obtain ⟨error, -, rfl⟩ := List.mem_map.mp member
      exact error.newline_not_mem_line
    rw [List.map_cons] at apart ⊢
    have split := Text.split_intercalate '\n' first.line (rest.map LexError.line) apart
    have some : List.intercalate ['\n'] (first.line :: rest.map LexError.line) ≠ [] := by
      intro none
      rw [none] at split
      exact first.line_ne_nil (List.cons.inj split).1.symm
    rw [Text.lines, if_neg some, split]

/-! ## The lines about a file -/

theorem length_tokens_lex (config : Config) (source : Text) :
    (lex config source).tokens.length = (tokenize config source).countP Item.isCounted + 1 := by
  obtain ⟨inner, same, others⟩ := exists_itemsFrom config .start source
  have counted : inner.countP (fun item => item.token?.isSome) = inner.countP Item.isCounted := by
    apply List.countP_congr
    intro item member
    have notEnd := others item member
    cases item with
    | token token =>
      have inside : token.isEnd = false := notEnd
      simp [Item.token?, Item.isCounted, inside]
    | error error => rfl
  rw [tokens_lex, tokenize_eq_itemsFrom, same, List.filterMap_append, List.length_append,
    List.length_filterMap_eq_countP, counted, List.countP_append]
  rfl

namespace Files

variable (files : Files) (filter : Log.Filter) (config : Config) (file : Text)

/-- The lines about a file that belong to every task: why it has no text, or else what is logged, and
each line of the report of its errors behind the name of the file and a colon. -/
def commonLines : List Text :=
  match files.text file with
  | .error fault => [file ++ ": ".toList ++ fault.message]
  | .ok source =>
    ((Log.tokenizing file :: Log.ofPass config source).filter filter).map Log.Event.line ++
      (lex config source).report.display.lines.map fun line => file ++ ':' :: line

/-- The line that says that a file is without errors, if it is, and how many tokens its items are
before the closing one. -/
def approvalLines : List Text :=
  match files.text file with
  | .error _ => []
  | .ok source =>
    if (tokenize config source).filterMap Item.error? = [] then
      [file ++ ": ok (".toList ++ Text.ofNat ((tokenize config source).countP Item.isCounted) ++
        " tokens)".toList]
    else []

end Files

namespace Task

variable (toolbox : Toolbox) (filter : Log.Filter) (config : Config) (files : Files)

theorem lines_conclude (task : Task) (file source : Text) (sofar : Outcome) :
    (task.conclude file (lex config source) sofar).notices.map Notice.line =
      sofar.notices.map Notice.line ++
        ((lex config source).report.display.lines.map fun line => file ++ ':' :: line) ++
        if task = .check ∧ (tokenize config source).filterMap Item.error? = [] then
          [file ++ ": ok (".toList ++ Text.ofNat ((tokenize config source).countP Item.isCounted) ++
            " tokens)".toList]
        else [] := by
  rw [Report.lines_display, ← errors_lex]
  unfold conclude
  cases empty : (lex config source).report.isEmpty with
  | true =>
    have none := (Report.isEmpty_iff _).mp empty
    have count : (lex config source).tokens.length - 1 =
        (tokenize config source).countP Item.isCounted := by
      rw [length_tokens_lex, Nat.add_sub_cancel]
    rw [none, if_pos rfl, count]
    by_cases checks : task = .check
    · simp [checks, Outcome.notify, Notice.line]
    · simp [checks]
  | false =>
    have some : (lex config source).report.errors ≠ [] := by
      rw [ne_eq, ← Report.isEmpty_iff, empty]
      exact Bool.false_ne_true
    simp [some, Outcome.notify, Outcome.fail, Notice.line, Function.comp_def]

theorem lines_runFiles_singleton (task : Task) (file : Text) :
    (task.runFiles toolbox filter config files [file]).notices.map Notice.line =
      files.commonLines filter config file ++
        if task = .check then files.approvalLines config file else [] := by
  simp only [runFiles, List.foldl_cons, List.foldl_nil, runFile, Files.commonLines,
    Files.approvalLines]
  cases files.text file with
  | error fault => simp [Outcome.notify, Outcome.fail, Notice.line]
  | ok source =>
    rw [lines_conclude]
    by_cases checks : task = .check <;>
      simp [checks, Outcome.print, Outcome.notify, Notice.line, Function.comp_def]

/-- The lines of a run are those about its files, one file after the other. -/
theorem lines_runFiles (task : Task) (names : List Text) :
    (task.runFiles toolbox filter config files names).notices.map Notice.line =
      names.flatMap fun file => files.commonLines filter config file ++
        if task = .check then files.approvalLines config file else [] := by
  induction names with
  | nil => rfl
  | cons file rest ih =>
    rw [runFiles_cons, Outcome.notices_append, List.map_append, lines_runFiles_singleton, ih,
      List.flatMap_cons]

theorem output_conclude (task : Task) (file : Text) (lexed : Lexed) (sofar : Outcome) :
    (task.conclude file lexed sofar).output = sofar.output := by
  unfold conclude
  repeat' split
  all_goals rfl

theorem output_runFiles_singleton (task : Task) {file source : Text}
    (read : files.text file = .ok source) :
    (task.runFiles toolbox filter config files [file]).output =
      task.output toolbox (lex config source).tokens := by
  simp only [runFiles, List.foldl_cons, List.foldl_nil, runFile, read, output_conclude]
  rfl

theorem output_runFiles (task : Task) (names : List Text) :
    (task.runFiles toolbox filter config files names).output =
      names.flatMap fun file => (task.runFiles toolbox filter config files [file]).output := by
  induction names with
  | nil => rfl
  | cons file rest ih => rw [runFiles_cons, Outcome.output_append, ih, List.flatMap_cons]

theorem output_check (names : List Text) :
    (Task.check.runFiles toolbox filter config files names).output = [] := by
  rw [output_runFiles, List.flatMap_eq_nil_iff]
  intro file _
  cases read : files.text file with
  | ok source => exact output_runFiles_singleton toolbox filter config files .check read
  | error fault =>
    simp only [runFiles, List.foldl_cons, List.foldl_nil, runFile, read]
    rfl

end Task

def Toolbox.WritesJson (toolbox : Toolbox) : Prop :=
  ∀ json : Json, json.value.Written (toolbox.writeJson json)

theorem Toolbox.writesJson_standard : standard.WritesJson := Json.written_layout 0

/-- Whether the tasks agree on files under options with a configuration: they end alike and tell of
each file in the same lines, to which a check adds its approval; a check prints nothing, and for a
file with text the listings print one line, or one element, more than an approval would count. -/
structure TasksAgree (toolbox : Toolbox) (options : Options) (environment : Option Text)
    (files : Files) (config : Config) (names : List Text) : Prop where
  codes : ∀ first second : Task, (options.run toolbox environment files first names).code =
    (options.run toolbox environment files second names).code
  listErrors : ∀ asJson, (options.run toolbox environment files (.list asJson) names).errors =
    unlines (names.flatMap (files.commonLines (options.log toolbox environment).filter config))
  checkErrors : (options.run toolbox environment files .check names).errors =
    unlines (names.flatMap fun file =>
      files.commonLines (options.log toolbox environment).filter config file ++
        files.approvalLines config file)
  quiet : (options.run toolbox environment files .check names).output = []
  listed : ∀ asJson, (options.run toolbox environment files (.list asJson) names).output =
    names.flatMap fun file => (options.run toolbox environment files (.list asJson) [file]).output
  lines : ∀ file source, files.text file = .ok source →
    (options.run toolbox environment files (.list false) [file]).output.count '\n' =
      (tokenize config source).countP Item.isCounted + 1
  elements : ∀ file source, files.text file = .ok source →
    JsonValue.elementCount? (options.run toolbox environment files (.list true) [file]).output =
      some ((tokenize config source).countP Item.isCounted + 1)

/-- Under options that load a configuration, the tasks agree on all files. -/
theorem tasksAgree_run {toolbox : Toolbox} (writes : toolbox.WritesJson) {options : Options}
    {files : Files} {config : Config} (loads : options.config toolbox files = .ok config)
    (environment : Option Text) (names : List Text) :
    TasksAgree toolbox options environment files config names := by
  have errors : ∀ task, (options.run toolbox environment files task names).errors =
      unlines (names.flatMap fun file =>
        files.commonLines (options.log toolbox environment).filter config file ++
          if task = .check then files.approvalLines config file else []) := by
    intro task
    rw [Options.run_of_loads loads, Outcome.ending, Task.lines_runFiles]
  constructor
  case codes =>
    intro first second
    have failed : ∀ filter, (first.runFiles toolbox filter config files names).failed =
        (second.runFiles toolbox filter config files names).failed := by
      intro filter
      rw [Bool.eq_iff_iff, Task.failed_runFiles, Task.failed_runFiles]
    simp only [Options.run_of_loads loads, Outcome.code_ending, failed]
  case listErrors =>
    intro asJson
    rw [errors]
    simp
  case checkErrors => rw [errors]; simp
  case quiet =>
    rw [Options.run_of_loads loads]
    exact Task.output_check toolbox _ config files names
  case listed =>
    intro asJson
    simp only [Options.run_of_loads loads]
    exact Task.output_runFiles toolbox _ config files (.list asJson) names
  case lines =>
    intro file source read
    have output := Task.output_runFiles_singleton toolbox (options.log toolbox environment).filter
      config files (.list false) read
    rw [Options.run_of_loads loads, ← length_tokens_lex, ← count_lineListing]
    exact congrArg (List.count '\n') output
  case elements =>
    intro file source read
    have output := Task.output_runFiles_singleton toolbox (options.log toolbox environment).filter
      config files (.list true) read
    have elements := JsonValue.elementCount?_of_written
      (writes (.list ((lex config source).tokens.map Token.toJson)))
    rw [Json.length_values, List.length_map, length_tokens_lex] at elements
    rw [Options.run_of_loads loads, ← elements]
    exact congrArg JsonValue.elementCount? output

/-- A file with an illegal character, one that is not there, and one without errors. -/
theorem tasksAgree_run_three : Toolbox.standard.WritesJson ∧
    Options.config .standard {} (.ofDirectory [(['a'], ⟨#[36, 32, 120]⟩), (['c'], ⟨#[121]⟩)]) =
        .ok .default ∧
      TasksAgree .standard {} none
        (.ofDirectory [(['a'], ⟨#[36, 32, 120]⟩), (['c'], ⟨#[121]⟩)]) .default
        [['a'], ['b'], ['c']] :=
  ⟨Toolbox.writesJson_standard, rfl,
    tasksAgree_run Toolbox.writesJson_standard rfl none [['a'], ['b'], ['c']]⟩

end Munch
