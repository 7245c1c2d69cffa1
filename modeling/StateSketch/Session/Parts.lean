import StateSketch.Session.Basic
import StateSketch.Text.Hexadecimal
import StateSketch.Workbench.View

/-!
# Calls that make parts

Guards, resources, actions, transitions and states are checked as they are made.  The line and the
file of a part are taken as they are given.
-/

namespace StateSketch.Session

/-- What comes of a call, which may be a fault. -/
def attempt {α : Type} (call : Session α) : Session (Except Fault α) :=
  ExceptT.mk do return .ok (← call.run)

/-! ## Written data -/

/-- A number written in decimal. -/
def readReal (text : String) : Session Datum :=
  match Binary64.ofText? text with
  | some value => newReal value
  | none => throw (.notReal (Text.quote text))

/-- A byte string written in hexadecimal. -/
def readBytes (text : String) : Session Datum :=
  match Text.readHexBytes text with
  | .ok values => return .bytes values
  | .error position => throw (.notHexadecimal position)

/-! ## Kinds and guards -/

def resourceKind (datum : Datum) : Session ResourceKind := do
  let found :=
    match datum with
    | .kind (.resource kind) => some kind
    | .text word => ResourceKind.ofWord? word
    | _ => none
  match found with
  | some kind => return kind
  | none => throw (.unknownKind "ResourceKind" (← quoted datum))

def guardKind (datum : Datum) : Session GuardKind := do
  let found :=
    match datum with
    | .kind (.guard kind) => some kind
    | .text word => GuardKind.ofWord? word
    | _ => none
  match found with
  | some kind => return kind
  | none => throw (.unknownKind "ExpressionKind" (← quoted datum))

def newReading (sensor level : Datum) : Session Datum := do
  return .guard (← check (Guard.ofReading sensor.argument level.argument))

def newBoth (left right : Datum) : Session Datum := do
  return .guard (← check (Guard.ofBoth left.argument right.argument))

def newEither (left right : Datum) : Session Datum := do
  return .guard (← check (Guard.ofEither left.argument right.argument))

/-- A guard of a named kind. -/
def newGuard (kind : Datum) (operands : List Datum) : Session Datum := do
  let kind ← attempt (guardKind kind)
  return .guard (← check (Guard.ofKind kind (operands.map (·.argument))))

/-- The condition that a resource reads a level; `reading` is what the condition is asked for by. -/
def reads (resource : Datum) (level : Level) (reading : String) : Session Datum :=
  match resource.resourceAt? Datum.anyOrigin with
  | some resource => return .guard (resource.reads level)
  | none => lacks resource reading

/-! ## Parts of programs -/

def newResource (name kind port line file : Datum) : Session Datum := do
  let kind ← attempt (resourceKind kind)
  let made ← check (Resource.ofArguments name.argument kind port.argument {})
  return .ofResource made line file

def newAction (target level line file : Datum) : Session Datum := do
  return .ofAction (← check (Action.ofArguments target.argument level.argument {})) line file

def newGuarded (guard target line file : Datum) : Session Datum := do
  return .ofTransition (← check (Transition.onGuard guard.argument target.argument {})) line file

def newDelayed (milliseconds target line file : Datum) : Session Datum := do
  return .ofTransition (← check (Transition.onDelay milliseconds.argument target.argument {}))
    line file

/-- A transition on a guard or after a delay. -/
def newTransition (trigger target line file : Datum) : Session Datum := do
  return .ofTransition (← check (Transition.ofArguments trigger.argument target.argument {}))
    line file

/-- A state with the given actions and transitions, each of which may be a fault. -/
def stateOf (name : Datum) (actions transitions : Except Fault (List Datum))
    (blinks line file : Datum) : Session Datum := do
  let arguments (items : Except Fault (List Datum)) : Argument.Items :=
    items.map (·.map Datum.argument)
  let made ← check (State.ofArguments name.argument (arguments actions) (arguments transitions)
    blinks.argument {})
  return .ofState made (← check actions) (← check transitions) line file

def newState (name actions transitions blinks line file : Datum) : Session Datum := do
  stateOf name (← attempt (items actions)) (← attempt (items transitions)) blinks line file

end StateSketch.Session
