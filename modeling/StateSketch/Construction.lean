import StateSketch.Argument
import StateSketch.Program

/-!
# Construction

The parts of a program made from unchecked arguments.  Each function checks its arguments in the
order in which they are listed, and the first one that does not fit is the fault.  An argument that
is looked up or gone through is given by what comes of it, which may be a fault.
-/

namespace StateSketch

namespace Guard

def ofReading (sensor level : Argument) : Except Fault Guard := do
  let sensor ← sensor.name .sensor
  let level ← level.level
  return .reads sensor level

def ofBoth (left right : Argument) : Except Fault Guard := do
  let left ← left.toGuard .leftOfBoth
  let right ← right.toGuard .rightOfBoth
  return .both left right

def ofEither (left right : Argument) : Except Fault Guard := do
  let left ← left.toGuard .leftOfEither
  let right ← right.toGuard .rightOfEither
  return .either left right

/-- A guard of a named kind, which takes two operands whatever the kind. -/
def ofKind (kind : Except Fault GuardKind) (operands : List Argument) : Except Fault Guard := do
  let kind ← kind
  match operands with
  | [first, second] =>
    match kind with
    | .condition => ofReading first second
    | .conjunction => ofBoth first second
    | .disjunction => ofEither first second
  | _ => .error (.operandCount kind.word operands.length)

end Guard

def Resource.ofArguments (name : Argument) (kind : Except Fault ResourceKind) (port : Argument)
    (origin : Origin) : Except Fault Resource := do
  let name ← name.name .resource
  let kind ← kind
  let port ← port.port
  return { name := name, kind := kind, port := port, origin := origin }

def Action.ofArguments (target level : Argument) (origin : Origin) : Except Fault Action := do
  let target ← target.name .actionTarget
  let level ← level.level
  return { target := target, level := level, origin := origin }

namespace Transition

def onGuard (guard target : Argument) (origin : Origin) : Except Fault Transition := do
  let condition ← guard.toGuard .trigger
  let target ← target.name .transitionTarget
  return { trigger := .guard condition, target := target, origin := origin }

def onDelay (milliseconds target : Argument) (origin : Origin) : Except Fault Transition := do
  let milliseconds ← milliseconds.delay
  let target ← target.name .transitionTarget
  return { trigger := .delay milliseconds, target := target, origin := origin }

/-- A guard makes a guarded transition and an integer a delayed one. -/
def ofArguments (trigger target : Argument) (origin : Origin) : Except Fault Transition :=
  match trigger with
  | .guard _ => onGuard trigger target origin
  | .integer _ => onDelay trigger target origin
  | other => .error (.triggerType other.typeName)

end Transition

namespace State

/-- The body of a state: the number of blinks, if given, makes it a fault state. -/
def checkBody (name : String) (actions : List Action) (transitions : List Transition) :
    Argument → Except Fault Body
  | .nothing => .ok (.normal actions transitions)
  | .integer count =>
    if count < 1 then .error (.showing count (.blinksTooFew count))
    else if actions.isEmpty && transitions.isEmpty then .ok (.fault count.toNat)
    else .error (.faultStateParts name)
  | other => .error (.blinksType other.typeName)

/-- A state; its transitions are gone through only after its actions have been checked. -/
def ofArguments (name : Argument) (actions transitions : Argument.Items) (blinks : Argument)
    (origin : Origin) : Except Fault State := do
  let name ← name.name .state
  let actions ← (← actions).mapM (·.toAction)
  let transitions ← (← transitions).mapM (·.toTransition)
  let body ← checkBody name actions transitions blinks
  return { name := name, body := body, origin := origin }

end State

namespace Program

def checkName (name : Argument) : Except Fault String := do
  let name ← name.name .program
  if name.toList.any (fun c ↦ c == '\n' || c == '\r') then .error (.nameNotLine name)
  else return name

/-- A choice of the initial state counts as one marking unless the number of markings is given. -/
def startMarkings (initial : Option String) (markings : Int) : Int :=
  if initial.isSome && markings == 0 then 1 else markings

/-- A program with the given parts. -/
def ofArguments (name faultPin : Argument) (registry : Registry) (states : List State)
    (initial : Option String) (endLine : Option Int) (file : Option String) (markings : Int) :
    Except Fault Program := do
  let name ← checkName name
  let faultPin ← faultPin.faultPin
  return {
    name := name
    registry := registry
    states := states
    initial := initial
    faultPin := faultPin
    endLine := endLine
    file := file
    initialMarkings := startMarkings initial markings }

/-- A program with nothing declared yet. -/
def start (name faultPin : Argument) (file : Option String) : Except Fault Program :=
  ofArguments name faultPin {} [] none none file 0

end Program

end StateSketch
