import StateSketch.Session.Registries

/-!
# Calls on programs
-/

namespace StateSketch.Session

/-- A new program; a registry or a list of states that is given is held in common with it. -/
def newProgram (name : Datum) (registry states : Option Datum)
    (initial faultPin endLine file markings : Datum) : Session Datum := do
  let registry ← registry.getDM newRegistry
  let states ← states.getDM (newList [])
  discard <| check (Program.checkName name.argument)
  discard <| check faultPin.argument.faultPin
  let markings ←
    if !initial.isNothing && (← agree markings (.integer 0)) then pure (.integer 1)
    else pure markings
  create .program .empty
    ((ObjectSort.fieldNames .program).zip
      [name, registry, states, initial, faultPin, endLine, file, markings])

/-- The program that a datum stands for. -/
def checkProgram (datum : Datum) : Session Unit :=
  if datum.isObject .program then return else throw (.notProgram datum.typeName)

/-! ## The states of a program -/

/-- The parts of what a program has for states. -/
def statesOf (program : Datum) : Session (List Datum) := do
  items (← member program "states")

def containsState (program name : Datum) : Session Bool := do
  discard <| able program .program "contains_state"
  let states ← statesOf program
  look (·.anyNamed name states)

/-- The last state of a name. -/
def stateNamed (program name : Datum) : Session Datum := do
  discard <| able program .program "get_state"
  let named ← (← statesOf program).filterM fun state ↦ do agree (← member state "name") name
  return named.getLast?.getD .nothing

def initialState (program : Datum) : Session Datum := do
  match ← member program "initial" with
  | .nothing => return .nothing
  | initial => stateNamed program initial

/-- Whether a part of a program is a fault state. -/
def isFault (state : Datum) : Session Bool := do
  isTrue (← member state "is_fault")

def anyFault : List Datum → Session Bool
  | [] => return false
  | state :: rest => do if ← isFault state then return true else anyFault rest

def hasFaultStates (program : Datum) : Session Bool := do
  anyFault (← statesOf program)

def faultStates (program : Datum) : Session (List Datum) := do
  (← statesOf program).filterM isFault

/-! ## New states -/

/-- One more than a number of markings; what is no number cannot be raised. -/
def raise : Datum → Except Fault Datum
  | .flag value => .ok (.integer ((if value then 1 else 0) + 1))
  | .integer value => .ok (.integer (value + 1))
  | .real value => .ok (.real value.next)
  | .text _ => .error (.notJoinable "str" "int")
  | .tuple _ => .error (.notJoinable "tuple" "int")
  | .bytes _ => .error (.notBytesToJoin "int")
  | .object { sort := .list, .. } => .error (.notCollection "int")
  | other => .error (.operands "+=" other.fullTypeName "int")

/-- Appends a state to a program, or whatever is given for one.  Whether it is the initial one is
seen only then. -/
def addState (program state initial : Datum) : Session Datum := do
  discard <| able program .program "add_state"
  append (← member program "states") state
  if ← isTrue initial then
    assign program "initial" (← member state "name")
    assign program "initial_markings" (← check (raise (← member program "initial_markings")))
  return state

/-- Puts back what a call has changed in a regular program. -/
def commitProgram (program : Datum) (before after : Program) : Session Unit := do
  unless before.endLine = after.endLine do
    assign program "end_line" (Datum.ofOption .integer after.endLine)
  commitRegistry (← member program "registry") before.registry after.registry
  appendNew State.datum (← member program "states") before.states after.states
  unless before.initial = after.initial do
    assign program "initial" (Datum.ofOption .text after.initial)
  unless before.initialMarkings = after.initialMarkings do
    assign program "initial_markings" (.integer after.initialMarkings)

end StateSketch.Session
