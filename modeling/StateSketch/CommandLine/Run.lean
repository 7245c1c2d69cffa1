import StateSketch.CommandLine.Library
import StateSketch.CommandLine.Options
import StateSketch.CommandLine.Surroundings
import StateSketch.Session.Compilation

/-!
# The command line

Compiles one application and writes its sketch to a file.  A run leaves traces: what it prints and
what it writes.  A fault that ends it does not take them back.
-/

namespace StateSketch.CommandLine

/-- What a run has left behind so far. -/
structure Traces where
  /-- Printed texts that report on the run, each ended by a line feed. -/
  messages : List String := []
  /-- The written files, in the order of writing. -/
  files : List (Path × String) := []
  /-- The text printed besides. -/
  stdout : String := ""

/-- Calls that leave traces in their surroundings. -/
abbrev Errand (α : Type) :=
  ReaderT Surroundings (ExceptT Fault (StateT Traces (StateM Workbench))) α

namespace Errand

/-- A call on the workbench, which leaves no traces. -/
def visit {α : Type} (call : Session α) : Errand α :=
  fun _ ↦ ExceptT.mk (StateT.lift (ExceptT.run call))

/-- Shows a marked-up message on the console. -/
def report (markup : String) : Errand Unit := do
  let line ← visit (Session.check ((← read).console markup))
  modify fun traces ↦ { traces with messages := traces.messages ++ [line] }

def makeDirectory (path : Path) : Errand Unit := do
  visit (Session.check ((← read).makeDirectory path))

/-- Writes a file. -/
def writeFile (path : Path) (content : String) : Errand Unit := do
  let write (content : String) : Errand Unit :=
    modify fun traces ↦ { traces with files := traces.files ++ [(path, content)] }
  match (← read).write path content with
  | .ok () => write content
  | .error breakdown =>
    breakdown.left.forM write
    throw breakdown.fault

/-- Prints a text besides the messages. -/
def print (text : String) : Errand Unit := do
  let write (text : String) : Errand Unit :=
    modify fun traces ↦ { traces with stdout := traces.stdout ++ text }
  match (← read).print text with
  | .ok () => write text
  | .error breakdown =>
    breakdown.left.forM write
    throw breakdown.fault

end Errand

/-! ## Finding and compiling a program -/

/-- The program of an application or of a program object, nothing for anything else. -/
def programIn (datum : Datum) : Session Datum :=
  if datum.isObject .app then Session.programOf datum
  else if datum.isObject .program then return datum
  else return .nothing

/-- The program that an attribute leads to; functions are called once. -/
def resolve : Attribute → Session Datum
  | .exhibit exhibit => do programIn (← exhibit.build [])
  | .switch => Session.buildSwitch .nothing
  | .refusing fault => throw fault
  | .datum datum => do programIn (← Session.resultOf datum)

/-- The program that an application of a module leads to, nothing if there is none. -/
def programFrom (host : Module) (appName : String) : Session Datum := do
  match ← Session.check (host.attribute appName) with
  | some found => resolve found
  | none => return .nothing

/-- The debounce interval that the options ask for; one without a value is no number. -/
def Options.interval (options : Options) : Session Datum :=
  match options.debounce with
  | some debounce => return .integer debounce
  | none => Session.newList []

/-- Compiles a program as the options ask for. -/
def compileFor (options : Options) (program : Datum) : Session Datum := do
  Session.compileProgram program .nothing (← options.interval)

/-! ## Reporting -/

/-- A text in a style. -/
def styled (style text : String) : String :=
  "[" ++ style ++ "]" ++ text ++ "[/" ++ style ++ "]"

/-- Prints the entries of diagnostics in a style. -/
def printAll (style : String) (diagnostics : Datum) : Errand Unit := do
  (← Errand.visit (Session.items diagnostics)).forM fun diagnostic ↦ do
    let entry ← Errand.visit (do Session.shown (← Session.format diagnostic))
    Errand.report (styled style entry)

/-- Prints the warnings of an emission. -/
def printWarnings (emission : Datum) : Errand Unit := do
  printAll "yellow" (← Errand.visit (Session.warningsOf emission))

/-- Prints why there is no sketch. -/
def refuse (message : String) : Errand (Option String) := do
  Errand.report (styled "bold red" message)
  return none

/-- Prints the errors that kept a sketch from being emitted. -/
def refuseErrors (emission : Datum) : Errand (Option String) := do
  printAll "red" (← Errand.visit (Session.errorsOf emission))
  refuse (← Errand.visit (Session.summaryOf emission))

/-- The text of an emitted sketch, if there is one. -/
def sourceOf (emission : Datum) : Errand (Option String) := do
  printWarnings emission
  match ← Errand.visit (Session.member emission "source") with
  | .text source => return some source
  | _ => refuseErrors emission

/-! ## Delivery -/

/-- The sketch of an application of a module. -/
def sketchFrom (host : Module) (options : Options) (appName : String) : Errand (Option String) := do
  match ← Errand.visit (programFrom host appName) with
  | .nothing => refuse s!"{host.name}.{appName} is not an App or Program."
  | program => sourceOf (← Errand.visit (compileFor options program))

/-- Where the sketch of an application goes. -/
def Options.path (options : Options) (appName : String) : Path :=
  match options.output with
  | some text => if text.isEmpty then default else Path.ofText text
  | none => default
where
  default : Path := Path.ofText ("scratchpad/" ++ appName ++ ".ino")

/-- The message on a written file. -/
def successMessage (path : Path) (source : String) : String :=
  styled "bold green" s!"Wrote {path.text} ({Text.countLines source.toList} lines)"

/-- Writes a sketch and reports where it went. -/
def deliver (path : Path) (source : String) (echo : Bool) : Errand Nat := do
  Errand.makeDirectory path.parent
  Errand.writeFile path source
  Errand.report (successMessage path source)
  if echo then Errand.print source
  return 0

/-- Delivers the sketch of an application, if there is one. -/
def deliverFrom (host : Module) (options : Options) (appName : String) : Errand Nat := do
  match ← sketchFrom host options appName with
  | some source => deliver (options.path appName) source options.stdout
  | none => return 1

/-- Does what the options ask for. -/
def execute (library : List Module) (options : Options) : Errand Nat := do
  match find library options.moduleName, options.appName with
  | .error fault, _ =>
    let name := (options.moduleName.map Text.quote).getD "[]"
    let _ ← refuse s!"Failed to import module {name}: {fault.message}"
    return 1
  | .ok _, none => throw (.attributeName "list")
  | .ok host, some appName => deliverFrom host options appName

/-- A whole run, which ends with an exit code. -/
def perform (library : List Module) (arguments : List String) : Errand Nat := do
  match Options.read arguments with
  | .error .help =>
    Errand.print (Text.joinLines helpLines ++ "\n")
    return 0
  | .error .usage => return 2
  | .ok options => execute library options

/-- The end of a run that no fault has ended. -/
structure Outcome extends Traces where
  exit : Nat

/-- The written file. -/
def Outcome.file (outcome : Outcome) : Option (Path × String) :=
  outcome.files.head?

/-- A whole run with the given attributes in the user's module. -/
def run (surroundings : Surroundings) (arguments : List String)
    (attributes : List (String × Datum)) : Session Outcome := do
  let library := modules (← get) attributes
  ExceptT.mk do
    let (result, traces) ← (ExceptT.run ((perform library arguments).run surroundings)).run {}
    return result.map fun exit ↦ { traces with exit := exit }

end StateSketch.CommandLine
