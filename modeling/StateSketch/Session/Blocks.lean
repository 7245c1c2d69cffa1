import StateSketch.Session.Builders

/-!
# Calls in the studio

As long as all applications and blocks are regular, what is declared in them is a call in the studio
that they make up; what the call has changed is then put back.  Otherwise the call is made step by
step.
-/

namespace StateSketch.Session

/-- Puts back what a call has changed in a program of the studio. -/
def commitApp (app : Nat) (before after : Builder) : Session Unit := do
  commitBuilder (← member (.object { sort := .app, index := app }) "builder") before after

/-- Puts back what a call has changed in a block. -/
def commitScope (index : Nat) (before after : Scope) : Session Unit := do
  let scope : Datum := .object { sort := .scope, index := index }
  appendNew Action.datum (← member scope "actions") before.actions after.actions
  appendNew Transition.datum (← member scope "transitions") before.transitions after.transitions
  unless before.state = after.state do
    assign scope "state" (Datum.ofOption State.datum after.state)

/-- Puts back what a call has changed in the studio. -/
def commitStudio (before after : Studio) : Session Unit := do
  let apps := (← get).numbersOf .app
  let scopes := (← get).numbersOf .scope
  (apps.zip (before.apps.zip after.apps)).forM fun (app, old, new) ↦ commitApp app old new
  (scopes.zip (before.scopes.zip after.scopes)).forM fun (scope, old, new) ↦
    commitScope scope old new
  modify fun bench ↦
    { bench with
      openApps := after.openApps.filterMap (apps[·]?)
      openScopes := after.openScopes.filterMap (scopes[·]?) }

/-- Runs a call in a regular studio, or else the steps of the call. -/
def onStudio {α : Type} (call : Option (Studio → Except Fault α × Studio)) (form : α → Datum)
    (steps : Session Datum) : Session Datum := do
  match (← get).studio?, call with
  | some before, some call =>
    let (result, after) := call before
    commitStudio before after
    return form (← check result)
  | _, _ => steps

/-- Runs a call in a regular studio of which nothing comes but the change. -/
def changeStudio (call : Studio → Except Fault Unit × Studio) (steps : Session Unit) :
    Session Unit :=
  discard <| onStudio (some call) (fun _ ↦ .nothing) do
    steps
    return .nothing

/-- The place of an object of a sort among all of that sort. -/
def placeOf (handle : Handle) : Session Nat := do
  return ((← get).numbersOf handle.sort).idxOf handle.index

/-! ## Applications -/

def newApp (name faultPin : Datum) (site : CallSite) : Session Datum := do
  let builder ← newBuilder name faultPin (.text site.file) (.integer site.line)
  create .app .empty (Workbench.appMembers.zip [builder])

def enterApp (handle : Handle) : Session Unit := do
  let place ← placeOf handle
  changeStudio (·.enterApp place) do
    unless (← get).openApps.isEmpty do throw .nestedApps
    modify ({ · with openApps := [handle.index] })

/-- Closes the open application and any block in it. -/
def exitApp : Session Unit :=
  changeStudio (·.exitApp) do
    match (← get).openApps with
    | [] => throw .nothingOpen
    | _ :: rest => modify ({ · with openApps := rest, openScopes := [] })

/-- The open application, which a call asks for. -/
def openApp (call : String) : Session Datum := do
  match (← get).openApps with
  | [] => throw (.outsideApp call)
  | app :: _ => return .object { sort := .app, index := app }

/-- Declares a resource of the open application. -/
def declare (kind : ResourceKind) (name port : Datum) (site : CallSite) : Session Datum := do
  let call := do
    let name ← name.argument?
    let port ← port.argument?
    return fun (studio : Studio) ↦ studio.declare kind name port site
  onStudio call Resource.datum do
    let builder ← member (← openApp kind.word) "builder"
    registerResource builder port (.kind (.resource kind)) name (.integer site.line)
      (.text site.file)

/-- Declares a fault state of the open application, outside of any block. -/
def faultState (name blinks : Datum) (site : CallSite) : Session Datum := do
  let call := do
    let name ← name.argument?
    let blinks ← blinks.argument?
    return fun (studio : Studio) ↦ studio.faultState name blinks site
  onStudio call State.datum do
    let app ← openApp "fault_state"
    unless (← get).openScopes.isEmpty do throw .faultStateInState
    makeFaultState (← member app "builder") name blinks (.integer site.line) (.text site.file)

/-! ## Blocks -/

/-- Makes the block of a state in the open application. -/
def newScope (name initial : Datum) (site : CallSite) : Session Datum := do
  let app ← openApp "state"
  let actions ← newList []
  let transitions ← newList []
  create .scope .empty
    (Workbench.scopeMembers.zip [app, .text site.file, .integer site.line, name, initial,
      actions, transitions, .nothing])

def enterScope (handle : Handle) : Session Unit := do
  let place ← placeOf handle
  changeStudio (·.enterScope place) do
    unless (← get).openScopes.isEmpty do throw .nestedStates
    modify ({ · with openScopes := [handle.index] })

/-- The builder of the application in which a block was made. -/
def builderOfScope (scope : Datum) : Session Datum :=
  memberOf scope "_app" "builder"

/-- Makes a block into a state of its application. -/
def finishScope (scope : Datum) : Session Unit := do
  let state ← makeState (← builderOfScope scope) (← member scope "name")
    (← member scope "actions") (← member scope "transitions") (← member scope "initial")
    (← member scope "_source_line") (← member scope "_source_file")
  assign scope "state" state

/-- Closes the open block.  The given block becomes a state unless it was left by an exception. -/
def exitScope (handle : Handle) (raised : Bool) : Session Unit := do
  let place ← placeOf handle
  changeStudio (·.exitScope place raised) do
    match (← get).openScopes with
    | [] => throw .nothingOpen
    | _ :: rest =>
      modify ({ · with openScopes := rest })
      unless raised do finishScope (.object handle)

/-- Opens an application or a block; a buffer only has to be open. -/
def enter (target : Datum) : Session Unit := do
  checkAbility target "__enter__"
  match target with
  | .object handle =>
    match handle.sort with
    | .app => enterApp handle
    | .scope => enterScope handle
    | .buffer => discard <| look (·.unreadLines handle)
    | _ => lacks target "__enter__"
  | _ => lacks target "__enter__"

/-- Closes the open application or the open block, or a buffer for good. -/
def leave (target raised : Datum) : Session Unit := do
  let raised ← isTrue raised
  checkAbility target "__exit__"
  match target with
  | .object handle =>
    match handle.sort with
    | .app => exitApp
    | .scope => exitScope handle raised
    | .buffer => setContent handle (.written none)
    | _ => lacks target "__exit__"
  | _ => lacks target "__exit__"

/-! ## Parts of blocks -/

/-- The open block, which a call asks for. -/
def openScope (call : String) : Session Datum := do
  match (← get).openScopes with
  | [] => throw (.outsideState call)
  | scope :: _ => return .object { sort := .scope, index := scope }

/-- A resource is named by itself or by its name. -/
def resourceName : Datum → Session Datum
  | .part .resource (name :: _) => return name
  | .text name => return .text name
  | other => throw (.writeTarget other.typeName)

/-- An action of the open block. -/
def writeLevel (target level : Datum) (site : CallSite) : Session Datum := do
  let call := do
    let target ← target.argument?
    let level ← level.argument?
    return fun (studio : Studio) ↦ studio.write target level site
  onStudio call Action.datum do
    let scope ← openScope "write"
    let builder ← builderOfScope scope
    discard <| able builder .builder "make_action"
    let action ← makeAction builder (← resourceName target) level (.integer site.line)
      (.text site.file)
    append (← member scope "actions") action
    return action

/-- Adds a transition to a block. -/
def addTransition (scope trigger target : Datum) (site : CallSite) : Session Datum := do
  let transition ← makeTransition (← builderOfScope scope) trigger target (.integer site.line)
    (.text site.file)
  append (← member scope "transitions") transition
  return transition

/-- A guarded transition of the open block. -/
def when (guard target : Datum) (site : CallSite) : Session Datum := do
  let call := do
    let guard ← guard.argument?
    let target ← target.argument?
    return fun (studio : Studio) ↦ studio.when guard target site
  onStudio call Transition.datum do
    let scope ← openScope "when"
    unless guard.isGuard do throw (.whenGuard guard.typeName)
    addTransition scope guard target site

/-- A delayed transition of the open block. -/
def after (milliseconds target : Datum) (site : CallSite) : Session Datum := do
  let call := do
    let milliseconds ← milliseconds.argument?
    let target ← target.argument?
    return fun (studio : Studio) ↦ studio.after milliseconds target site
  onStudio call Transition.datum do
    let scope ← openScope "after"
    match milliseconds with
    | .integer _ => addTransition scope milliseconds target site
    | other => throw (.afterDelay other.typeName)

end StateSketch.Session
