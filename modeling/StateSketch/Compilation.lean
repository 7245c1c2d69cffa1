import StateSketch.Sketch.Emission
import StateSketch.Validation

/-!
# Compilation

A program is validated and, if it has no errors, turned into the text of a sketch.  What happened
on the way is kept in a log.
-/

namespace StateSketch

inductive LogLevel where
  | debug
  | info
deriving DecidableEq

def LogLevel.word : LogLevel → String
  | .debug => "DEBUG"
  | .info => "INFO"

structure LogEntry where
  level : LogLevel
  message : String
deriving DecidableEq

namespace LogEntry

def render (entry : LogEntry) : String :=
  entry.level.word ++ " " ++ entry.message

/-- A warning was passed on. -/
def advisory (text : String) : LogEntry where
  level := .debug
  message := "Advisory: " ++ text

/-- A program, given by its quoted name, was turned into the text of a sketch. -/
def rendered (states : Nat) (name source : String) : LogEntry where
  level := .debug
  message := s!"Rendered {states} state function(s) for " ++ name ++
    s!" ({Text.countLineFeeds source} line(s))"

/-- A program was refused. -/
def refused (name summary : String) : LogEntry where
  level := .info
  message := "Not emitting " ++ name ++ ": " ++ summary

end LogEntry

/-- The outcome of a compilation. -/
structure Emission where
  /-- The text of the sketch, missing exactly if there are errors. -/
  source : Option String
  report : Report
deriving DecidableEq

namespace Emission

def ok (emission : Emission) : Bool :=
  emission.source.isSome

def summary (emission : Emission) : String :=
  emission.report.verdict

end Emission

namespace Program

def emit (program : Program) (debounce : Nat) : Except Fault String :=
  (program.sketch debounce).map (·.text)

def renderedEntry (program : Program) (source : String) : LogEntry :=
  .rendered program.states.length (Text.quote program.name) source

def refusedEntry (program : Program) (report : Report) : LogEntry :=
  .refused (Text.quote program.name) report.summary

/-- Logs warnings one after the other up to one that cannot be shown. -/
def adviseOn : List Diagnostic → Except Fault Unit × List LogEntry
  | [] => (.ok (), [])
  | warning :: rest =>
    match warning.format with
    | .error fault => (.error fault, [])
    | .ok text =>
      let (result, entries) := adviseOn rest
      (result, .advisory text :: entries)

/-- Emits a program with the given report unless it has errors; warnings are kept beside the
text. -/
def emitUnless (program : Program) (report : Report) (debounce : Nat) :
    Except Fault Emission × List LogEntry :=
  if report.errors.isEmpty then
    match program.emit debounce with
    | .error fault => (.error fault, [])
    | .ok source =>
      (.ok { source := some source, report := { warnings := report.warnings } },
        [program.renderedEntry source])
  else (.ok { source := none, report := report }, [program.refusedEntry report])

/-- Validates the program, logs its warnings and emits it unless it has errors. -/
def compile (program : Program) (debounce : Nat) : Except Fault Emission × List LogEntry :=
  match program.validate with
  | .error fault => (.error fault, [])
  | .ok report =>
    match adviseOn report.warnings with
    | (.error fault, entries) => (.error fault, entries)
    | (.ok (), entries) =>
      let (result, more) := program.emitUnless report debounce
      (result, entries ++ more)

/-- How the errors that keep a program from being emitted are listed: their number, then a line
with the code and the text of each. -/
def rejectionLines (errors : List Diagnostic) : Except Fault (List String) := do
  let entries ← errors.mapM fun error ↦ do return error.code.word ++ " @ " ++ (← error.format)
  return s!"{errors.length} error(s)." :: entries

/-- Emits the program or refuses it with a list of its errors. -/
def generate (program : Program) (debounce : Nat) : Except Fault String × List LogEntry :=
  match program.validate with
  | .error fault => (.error fault, [])
  | .ok report =>
    if report.errors.isEmpty then
      match program.emit debounce with
      | .error fault => (.error fault, [])
      | .ok source => (.ok source, [program.renderedEntry source])
    else
      (match rejectionLines report.errors with
        | .error fault => .error fault
        | .ok lines => .error (.rejected lines), [])

end Program

end StateSketch
