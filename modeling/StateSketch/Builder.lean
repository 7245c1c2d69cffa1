import StateSketch.Construction

/-!
# Builders

A builder puts a program together call by call.  A call that constructs a part first resolves the
line of the part, which moves the end of the program, and then checks the part; so a part that is
refused may still have moved the end.
-/

namespace StateSketch

structure Builder where
  program : Program
  /-- The line of parts that name none. -/
  line : Option Int := none
deriving DecidableEq

namespace Builder

def start (name faultPin : Argument) (file : Option String) : Except Fault Builder :=
  (Program.start name faultPin file).map fun program ↦ { program := program }

/-- The origin of a part, with the builder's line if it names none. -/
def locate (builder : Builder) (origin : Origin) : Origin :=
  { origin with line := origin.line <|> builder.line }

/-- Constructs a part at a place and, unless it is refused, adds it to the program. -/
def construct {α : Type} (builder : Builder) (origin : Origin) (make : Origin → Except Fault α)
    (add : Program → α → Except Fault Unit × Program) : Except Fault α × Builder :=
  let place := builder.locate origin
  let reached := builder.program.reachLine place.line
  match make place with
  | .error fault => (.error fault, { builder with program := reached })
  | .ok part =>
    let (added, program) := add reached part
    (added.map fun _ ↦ part, { builder with program := program })

/-- What is constructed stands for itself. -/
def addNothing {α : Type} (program : Program) (_ : α) : Except Fault Unit × Program :=
  (.ok (), program)

def addResource (program : Program) (resource : Resource) : Except Fault Unit × Program :=
  let (result, registry) := program.registry.register resource
  (result, { program with registry := registry })

def addState (initial : Bool) (program : Program) (state : State) :
    Except Fault Unit × Program :=
  (.ok (), program.addState state initial)

/-- The kind is looked up before the line is resolved. -/
def registerResource (builder : Builder) (port : Argument) (kind : Except Fault ResourceKind)
    (name : Argument) (origin : Origin) : Except Fault Resource × Builder :=
  match kind with
  | .error fault => (.error fault, builder)
  | .ok kind => builder.construct origin (Resource.ofArguments name (.ok kind) port) addResource

def makeAction (builder : Builder) (target level : Argument) (origin : Origin) :
    Except Fault Action × Builder :=
  builder.construct origin (Action.ofArguments target level) addNothing

def makeTransition (builder : Builder) (trigger target : Argument) (origin : Origin) :
    Except Fault Transition × Builder :=
  builder.construct origin (Transition.ofArguments trigger target) addNothing

/-- The actions and the transitions are gone through before the line is resolved, and checked
after it. -/
def makeState (builder : Builder) (name : Argument) (actions transitions : Argument.Items)
    (initial : Bool) (origin : Origin) : Except Fault State × Builder :=
  match actions, transitions with
  | .error fault, _ => (.error fault, builder)
  | .ok _, .error fault => (.error fault, builder)
  | .ok actions, .ok transitions =>
    builder.construct origin
      (State.ofArguments name (.ok actions) (.ok transitions) .nothing) (addState initial)

def makeFaultState (builder : Builder) (name blinks : Argument) (origin : Origin) :
    Except Fault State × Builder :=
  builder.construct origin (State.ofArguments name (.ok []) (.ok []) blinks) (addState false)

end Builder

end StateSketch
