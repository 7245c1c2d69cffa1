import StateSketch.Fault
import StateSketch.Sketch.Text
import StateSketch.Symbol.Table

/-!
# From programs to sketches

Each part of a program becomes a part of the sketch once its names have symbols.  A name without a
symbol is a fault, and so is a number with too many digits; the first one is reported.
-/

namespace StateSketch

namespace SymbolTable

/-- The symbol of a resource. -/
def pin (table : SymbolTable) (name : String) : Except Fault String :=
  match table.resources.lookup name with
  | some symbol => .ok symbol
  | none => .error (.unassigned .resource (Text.quote name))

/-- The symbol of a state. -/
def function (table : SymbolTable) (name : String) : Except Fault String :=
  match table.states.lookup name with
  | some symbol => .ok symbol
  | none => .error (.unassigned .state (Text.quote name))

/-- The guard with symbols for sensors. -/
def guard (table : SymbolTable) : Guard → Except Fault Guard
  | .reads sensor level => do return .reads (← table.pin sensor) level
  | .both left right => do return .both (← table.guard left) (← table.guard right)
  | .either left right => do return .either (← table.guard left) (← table.guard right)

def test (table : SymbolTable) : Trigger → Except Fault Test
  | .guard condition => do return .settled (← table.guard condition)
  | .delay milliseconds => do
    Fault.checkWidth milliseconds
    return .elapsed milliseconds

def write (table : SymbolTable) (action : Action) : Except Fault Step := do
  return .write (← table.pin action.target) action.level

/-- A transition becomes a branch that restarts the clock and goes to the target. -/
def branch (table : SymbolTable) (transition : Transition) : Except Fault Branch := do
  let test ← table.test transition.trigger
  let target ← table.function transition.target
  return { test := test, body := [.restartClock, .call target] }

/-- Goes on to the first transition that is ready, or else to the state itself again. -/
def dispatch (table : SymbolTable) (state : State) : Except Fault (List Statement) := do
  let self ← table.function state.name
  match ← state.transitions.mapM table.branch with
  | [] => return [.step (.call self)]
  | first :: rest =>
    let sample : List Statement :=
      if state.transitions.any (·.trigger.isGuard) then [.step .sampleGuard] else []
    return sample ++ [.choose first rest [.call self]]

/-- The function of a state. -/
def stateFunction (table : SymbolTable) (state : State) : Except Fault Function := do
  let name ← table.function state.name
  match state.body with
  | .fault blinks =>
    Fault.checkWidth blinks
    return { name := name, body := [.step (.blink blinks), .step (.call name)] }
  | .normal actions _ =>
    let writes ← actions.mapM table.write
    let dispatch ← table.dispatch state
    return { name := name, body := writes.map .step ++ dispatch }

def pinDeclaration (table : SymbolTable) (resource : Resource) : Except Fault PinDeclaration := do
  let pin ← table.pin resource.name
  Fault.checkWidth resource.port
  return { pin := pin, port := resource.port }

end SymbolTable

def Resource.pinMode (resource : Resource) : PinMode :=
  match resource.kind with
  | .sensor => .input
  | .actuator => .output

namespace SymbolTable

def configure (table : SymbolTable) (resource : Resource) : Except Fault Step := do
  return .configure (← table.pin resource.name) resource.pinMode

end SymbolTable

/-- A program on its way to a sketch: the symbols given so far and the helper functions that its
parts have called for. -/
structure Workpiece where
  program : Program
  debounce : Nat
  symbols : SymbolTable := {}
  helpers : List String := []

namespace Workpiece

def assignSymbols (piece : Workpiece) : Workpiece :=
  { piece with symbols := SymbolTable.ofProgram piece.program }

def markHelper (piece : Workpiece) (helper : String) : Workpiece :=
  if helper ∈ piece.helpers then piece else { piece with helpers := piece.helpers ++ [helper] }

/-- The marked helpers among those that a sketch can define. -/
def helpersInOrder (piece : Workpiece) : List String :=
  [blinkHelper].filter (· ∈ piece.helpers)

/-- The function of a state.  A fault state with a symbol also calls for the helper that blinks. -/
def stateFunction (piece : Workpiece) (state : State) : Except Fault Function × Workpiece :=
  let calls := state.isFault && (piece.symbols.states.lookup state.name).isSome
  (piece.symbols.stateFunction state, if calls then piece.markHelper blinkHelper else piece)

/-- The functions of states up to the first fault; helpers called for before it stay marked. -/
def stateFunctions (piece : Workpiece) : List State → Except Fault (List Function) × Workpiece
  | [] => (.ok [], piece)
  | state :: rest =>
    match piece.stateFunction state with
    | (.error fault, next) => (.error fault, next)
    | (.ok function, next) =>
      let (functions, last) := next.stateFunctions rest
      (functions.map (function :: ·), last)

def pins (piece : Workpiece) : Except Fault (List PinDeclaration) :=
  piece.program.registry.resources.mapM piece.symbols.pinDeclaration

/-- The fault indicator starts dark, and each resource is configured by its kind. -/
def setup (piece : Workpiece) : Except Fault (List Step) := do
  let configured ← piece.program.registry.resources.mapM piece.symbols.configure
  return (if piece.program.hasFaultStates then
      [.configure faultPinName .output, .write faultPinName .low]
    else []) ++ configured

def blinks (piece : Workpiece) : Bool :=
  blinkHelper ∈ piece.helpersInOrder

def entry (piece : Workpiece) : Except Fault String :=
  match piece.program.initial with
  | none => .error .loopWithoutInitial
  | some initial => piece.symbols.function initial

/-- The numbers in the header have to be such that they can be shown. -/
def checkHeader (piece : Workpiece) : Except Fault Unit := do
  Fault.checkWidth piece.debounce
  piece.program.faultPin.forM fun pin ↦ Fault.checkWidth pin

/-- Functions come first, because they call for the helpers. -/
def sketch (piece : Workpiece) : Except Fault Sketch × Workpiece :=
  let (functions, next) := piece.stateFunctions piece.program.states
  let sketch : Except Fault Sketch := do
    let functions ← functions
    next.checkHeader
    let pins ← next.pins
    let setup ← next.setup
    let entry ← next.entry
    return {
      title := piece.program.name
      debounce := piece.debounce
      faultPin := piece.program.faultPin
      pins := pins
      setup := setup
      functions := functions
      blinks := next.blinks
      entry := entry }
  (sketch, next)

end Workpiece

/-- The sketch of a program. -/
def Program.sketch (program : Program) (debounce : Nat) : Except Fault Sketch :=
  (Workpiece.sketch (Workpiece.assignSymbols { program := program, debounce := debounce })).1

end StateSketch
