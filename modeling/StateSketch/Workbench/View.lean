import StateSketch.Studio
import StateSketch.Workbench.Basic

/-!
# Programs on the workbench

A program, a builder or a block on the workbench is regular if everything in it is of the type that
it should be of.  What is regular can be read as a value of its type, and such values can be put
back as data.
-/

namespace StateSketch

/-! ## Parts as data -/

namespace Origin

def lineDatum (origin : Origin) : Datum :=
  Datum.ofOption .integer origin.line

def fileDatum (origin : Origin) : Datum :=
  Datum.ofOption .text origin.file

end Origin

namespace Datum

/-! Each part is made from what was checked of it, and from its line and its file, which are not
checked. -/

def ofResource (resource : Resource) (line file : Datum) : Datum :=
  .part .resource
    [.text resource.name, .kind (.resource resource.kind), .integer resource.port, line, file]

def ofAction (action : Action) (line file : Datum) : Datum :=
  .part .action [.text action.target, .flag action.level.toBool, line, file]

def ofTransition (transition : Transition) (line file : Datum) : Datum :=
  match transition.trigger with
  | .guard condition => .part .guarded [.guard condition, .text transition.target, line, file]
  | .delay milliseconds =>
    .part .delayed [.integer milliseconds, .text transition.target, line, file]

/-- A state with actions and transitions that are given as data. -/
def ofState (state : State) (actions transitions : List Datum) (line file : Datum) : Datum :=
  .part .state [.text state.name, .tuple actions, .tuple transitions,
    ofOption (fun blinks : Nat ↦ .integer blinks) state.blinks?, line, file]

end Datum

def Resource.datum (resource : Resource) : Datum :=
  .ofResource resource resource.origin.lineDatum resource.origin.fileDatum

def Action.datum (action : Action) : Datum :=
  .ofAction action action.origin.lineDatum action.origin.fileDatum

def Transition.datum (transition : Transition) : Datum :=
  .ofTransition transition transition.origin.lineDatum transition.origin.fileDatum

def State.datum (state : State) : Datum :=
  .ofState state (state.actions.map (·.datum)) (state.transitions.map (·.datum))
    state.origin.lineDatum state.origin.fileDatum

def Diagnostic.datum (diagnostic : Diagnostic) : Datum :=
  .part .diagnostic [.text diagnostic.code.word, .text diagnostic.severity,
    .text diagnostic.message, diagnostic.origin.lineDatum, diagnostic.origin.fileDatum,
    .ofOption .text diagnostic.suggestion]

def Report.datum (report : Report) : Datum :=
  .part .report [.tuple (report.errors.map (·.datum)), .tuple (report.warnings.map (·.datum))]

def Emission.datum (emission : Emission) : Datum :=
  .part .emission [.ofOption .text emission.source, emission.report.datum]

/-! ## Data as parts -/

namespace Datum

def line? : Datum → Option (Option Int)
  | .nothing => some none
  | .integer line => some (some line)
  | _ => none

/-- A text, or nothing. -/
def textOrNothing? : Datum → Option (Option String)
  | .nothing => some none
  | .text value => some (some value)
  | _ => none

def origin? (line file : Datum) : Option Origin := do
  return { line := ← line.line?, file := ← file.textOrNothing? }

/-- The origin of a part of which only what was checked is of interest. -/
def anyOrigin (_ _ : Datum) : Option Origin :=
  some {}

def resourceAt? (originOf : Datum → Datum → Option Origin) : Datum → Option Resource
  | .part .resource [.text name, .kind (.resource use), .integer port, line, file] => do
    return { name := name, kind := use, port := port.toNat, origin := ← originOf line file }
  | _ => none

def actionAt? (originOf : Datum → Datum → Option Origin) : Datum → Option Action
  | .part .action [.text target, .flag level, line, file] => do
    return { target := target, level := .ofBool level, origin := ← originOf line file }
  | _ => none

def transitionAt? (originOf : Datum → Datum → Option Origin) : Datum → Option Transition
  | .part .guarded [.guard condition, .text target, line, file] => do
    return { trigger := .guard condition, target := target, origin := ← originOf line file }
  | .part .delayed [.integer milliseconds, .text target, line, file] => do
    return {
      trigger := .delay milliseconds.toNat, target := target, origin := ← originOf line file }
  | _ => none

def resource? : Datum → Option Resource :=
  resourceAt? origin?

def action? : Datum → Option Action :=
  actionAt? origin?

def transition? : Datum → Option Transition :=
  transitionAt? origin?

/-- The body of a state with the given number of blinks, if any. -/
def body? (actions transitions : List Datum) : Datum → Option Body
  | .integer blinks => some (.fault blinks.toNat)
  | _ => do return .normal (← actions.mapM action?) (← transitions.mapM transition?)

def state? : Datum → Option State
  | .part .state [.text name, .tuple actions, .tuple transitions, blinks, line, file] => do
    return {
      name := name, body := ← body? actions transitions blinks, origin := ← origin? line file }
  | _ => none

def diagnostic? : Datum → Option Diagnostic
  | .part .diagnostic [.text code, .text severity, .text message, line, file, suggestion] => do
    let diagnostic : Diagnostic := {
      code := ← DiagnosticCode.ofWord? code
      message := message
      origin := ← origin? line file
      suggestion := ← suggestion.textOrNothing? }
    if diagnostic.severity = severity then some diagnostic else none
  | _ => none

def report? : Datum → Option Report
  | .part .report [.tuple errors, .tuple warnings] => do
    return { errors := ← errors.mapM diagnostic?, warnings := ← warnings.mapM diagnostic? }
  | _ => none

/-- An argument of a call that asks for parts with the given origins. -/
def argumentAt? (originOf : Datum → Datum → Option Origin) (datum : Datum) : Option Argument :=
  match datum with
  | .nothing => some .nothing
  | .flag value => some (.flag value)
  | .integer value => some (.integer value)
  | .text value => some (.text value)
  | .guard condition => some (.guard condition)
  | .part .resource _ => (datum.resourceAt? originOf).map .resource
  | .part .action _ => (datum.actionAt? originOf).map .action
  | .part .guarded _ => (datum.transitionAt? originOf).map .transition
  | .part .delayed _ => (datum.transitionAt? originOf).map .transition
  | other => some (.foreign other.typeName)

/-- A regular argument. -/
def argument? : Datum → Option Argument :=
  argumentAt? origin?

/-- An argument as far as it is checked; where parts were declared is left out. -/
def argument (datum : Datum) : Argument :=
  (datum.argumentAt? anyOrigin).getD (.foreign datum.typeName)

end Datum

/-! ## Objects as values -/

namespace Workbench

/-- The members of an object that has exactly the given ones. -/
def fields? (bench : Workbench) (sort : ObjectSort) (names : List String) :
    Datum → Option (List Datum)
  | .object handle =>
    let members := bench.members handle
    if handle.sort = sort ∧ members.map (·.1) = names then some (members.map (·.2)) else none
  | _ => none

/-- The items of a list, which has to be on the workbench. -/
def list? (bench : Workbench) : Datum → Option (List Datum)
  | .object handle =>
    match handle.sort, bench.content handle with
    | .list, .items items => some items
    | _, _ => none
  | _ => none

/-- The items of a set. -/
def set? (bench : Workbench) : Datum → Option (List Datum)
  | .object handle => if handle.sort = .set then some (bench.itemsAt handle) else none
  | _ => none

/-- The texts in a table. -/
def table? (bench : Workbench) : Datum → Option (List (String × String))
  | .object handle =>
    if handle.sort = .table then
      (bench.entriesAt handle).mapM fun (key, value) ↦ do return (key, ← value.text?)
    else none
  | _ => none

def registryMembers : List String :=
  ["_resources", "conflicts"]

def registryIn? (bench : Workbench) (datum : Datum) : Option Registry := do
  match ← bench.fields? .registry registryMembers datum with
  | [resources, conflicts] =>
    return {
      resources := ← (← bench.list? resources).mapM Datum.resource?
      conflicts := ← (← bench.list? conflicts).mapM Datum.diagnostic? }
  | _ => none

/-- A pin, or nothing. -/
def pin? : Datum → Option (Option Nat)
  | .nothing => some none
  | .integer pin => if pin < 0 then none else some (some pin.toNat)
  | _ => none

def program? (bench : Workbench) (datum : Datum) : Option Program := do
  match ← bench.fields? .program (ObjectSort.fieldNames .program) datum with
  | [.text name, registry, states, initial, faultPin, endLine, file, .integer markings] =>
    return {
      name := name
      registry := ← bench.registryIn? registry
      states := ← (← bench.list? states).mapM Datum.state?
      initial := ← initial.textOrNothing?
      faultPin := ← pin? faultPin
      endLine := ← endLine.line?
      file := ← file.textOrNothing?
      initialMarkings := markings }
  | _ => none

def builderMembers : List String :=
  ["_program", "lineno"]

def builder? (bench : Workbench) (datum : Datum) : Option Builder := do
  match ← bench.fields? .builder builderMembers datum with
  | [program, line] => return { program := ← bench.program? program, line := ← line.line? }
  | _ => none

def appMembers : List String :=
  ["_builder"]

def app? (bench : Workbench) (datum : Datum) : Option Builder := do
  match ← bench.fields? .app appMembers datum with
  | [builder] => bench.builder? builder
  | _ => none

def scopeMembers : List String :=
  ["_app", "_source_file", "_source_line", "name", "initial", "actions", "transitions", "state"]

/-- A state, or nothing. -/
def stateOrNothing? : Datum → Option (Option State)
  | .nothing => some none
  | other => other.state?.map some

/-- Whether a datum that is no object counts as a yes. -/
def plainTruth? : Datum → Option Bool
  | .nothing => some false
  | .flag value => some value
  | .integer value => some (value != 0)
  | .text value => some !value.isEmpty
  | _ => none

/-- The block of a state in one of the applications with the given numbers. -/
def scope? (bench : Workbench) (apps : List Nat) (datum : Datum) : Option Scope := do
  match ← bench.fields? .scope scopeMembers datum with
  | [.object { sort := .app, index := app }, .text file, .integer line, name, initial, actions,
      transitions, state] =>
    return {
      app := ← apps.idxOf? app
      name := name.argument
      initial := ← plainTruth? initial
      site := { file := file, line := line }
      actions := ← (← bench.list? actions).mapM Datum.action?
      transitions := ← (← bench.list? transitions).mapM Datum.transition?
      state := ← stateOrNothing? state }
  | _ => none

/-- All applications and blocks, if they are regular. -/
def studio? (bench : Workbench) : Option Studio := do
  let apps := bench.numbersOf .app
  let scopes := bench.numbersOf .scope
  return {
    apps := ← apps.mapM fun index ↦ bench.app? (.object { sort := .app, index := index })
    scopes := ← scopes.mapM fun index ↦
      bench.scope? apps (.object { sort := .scope, index := index })
    openApps := ← bench.openApps.mapM (apps.idxOf? ·)
    openScopes := ← bench.openScopes.mapM (scopes.idxOf? ·) }

/-- A workpiece, which has two tables of symbols. -/
def piece? (bench : Workbench) (datum : Datum) : Option Workpiece := do
  match ← bench.fields? .workpiece (ObjectSort.fieldNames .workpiece) datum with
  | [program, .integer debounce, .object resources, .object states, helpers] =>
    guard (0 ≤ debounce ∧ resources ≠ states)
    return {
      program := ← bench.program? program
      debounce := debounce.toNat
      symbols := {
        resources := ← bench.table? (.object resources)
        states := ← bench.table? (.object states) }
      helpers := ← (← bench.set? helpers).mapM Datum.text? }
  | _ => none

end Workbench

end StateSketch
