import StateSketch.Session.Programs

/-!
# Calls on builders

A call on a regular builder with regular arguments is a call on the builder that it can be read as;
what the call has changed is then put back.  Any other builder is called step by step.
-/

namespace StateSketch.Session

/-- A builder with a new program. -/
def newBuilder (name faultPin file line : Datum) : Session Datum := do
  let program ← newProgram name none none .nothing faultPin .nothing file (.integer 0)
  create .builder .empty (Workbench.builderMembers.zip [program, line])

def programOfBuilder (builder : Handle) : Session Datum :=
  member (.object builder) "_program"

/-- Puts back what a call has changed in a regular builder. -/
def commitBuilder (builder : Datum) (before after : Builder) : Session Unit := do
  commitProgram (← member builder "_program") before.program after.program

/-- Runs a call on a regular builder at a regular place, or else the steps of the call. -/
def onBuilder {α : Type} (builder line file : Datum)
    (call : Option (Builder → Origin → Except Fault α × Builder)) (form : α → Datum)
    (steps : Session Datum) : Session Datum := do
  match (← get).builder? builder, Datum.origin? line file, call with
  | some before, some origin, some call =>
    let (result, after) := call before origin
    commitBuilder builder before after
    return form (← check result)
  | _, _, _ => steps

/-! ## Steps -/

/-- The line of a part, by default the builder's, to which the end of the program is extended. -/
def resolveLine (builder : Handle) (line : Datum) : Session Datum := do
  let resolved ← if line.isNothing then member (.object builder) "lineno" else pure line
  unless resolved.isNothing do
    let last ← memberOf (.object builder) "_program" "end_line"
    let further ← if last.isNothing then pure true else exceeds resolved last
    if further then assign (← programOfBuilder builder) "end_line" resolved
  return resolved

/-- Adds a state to the program of a builder. -/
def addMade (builder : Handle) (state initial : Datum) : Session Datum := do
  addState (← programOfBuilder builder) state initial

/-! ## Calls -/

/-- The kind is looked up before the line is resolved. -/
def registerResource (builder port kind name line file : Datum) : Session Datum := do
  let handle ← able builder .builder "register_resource"
  let kind ← resourceKind kind
  let call := do
    let port ← port.argument?
    let name ← name.argument?
    return fun (builder : Builder) ↦ builder.registerResource port (.ok kind) name
  onBuilder builder line file call Resource.datum do
    let line ← resolveLine handle line
    let resource ← newResource name (.kind (.resource kind)) port line file
    register (← memberOf (.object handle) "_program" "registry") resource

def makeAction (builder target level line file : Datum) : Session Datum := do
  let handle ← able builder .builder "make_action"
  let call := do
    let target ← target.argument?
    let level ← level.argument?
    return fun (builder : Builder) ↦ builder.makeAction target level
  onBuilder builder line file call Action.datum do
    newAction target level (← resolveLine handle line) file

def makeTransition (builder trigger target line file : Datum) : Session Datum := do
  let handle ← able builder .builder "make_transition"
  let call := do
    let trigger ← trigger.argument?
    let target ← target.argument?
    return fun (builder : Builder) ↦ builder.makeTransition trigger target
  onBuilder builder line file call Transition.datum do
    newTransition trigger target (← resolveLine handle line) file

/-- The actions and the transitions are gone through before the line is resolved. -/
def makeState (builder name actions transitions initial line file : Datum) : Session Datum := do
  let handle ← able builder .builder "make_state"
  let actions ← items actions
  let transitions ← items transitions
  let call := do
    let name ← name.argument?
    let actions ← actions.mapM (·.argument?)
    let transitions ← transitions.mapM (·.argument?)
    let initial ← Workbench.plainTruth? initial
    return fun (builder : Builder) ↦ builder.makeState name (.ok actions) (.ok transitions) initial
  onBuilder builder line file call State.datum do
    let line ← resolveLine handle line
    let state ← stateOf name (.ok actions) (.ok transitions) .nothing line file
    addMade handle state initial

def makeFaultState (builder name blinks line file : Datum) : Session Datum := do
  let handle ← able builder .builder "make_fault_state"
  let call := do
    let name ← name.argument?
    let blinks ← blinks.argument?
    return fun (builder : Builder) ↦ builder.makeFaultState name blinks
  onBuilder builder line file call State.datum do
    let line ← resolveLine handle line
    let state ← stateOf name (.ok []) (.ok []) blinks line file
    addMade handle state (.flag false)

/-- The program of a builder. -/
def build (builder : Datum) : Session Datum := do
  programOfBuilder (← able builder .builder "build")

end StateSketch.Session
