import StateSketch.Builder

/-!
# The studio

Applications written as nested blocks: an application is opened, states are opened inside it, and
what is declared goes to whatever is open at that moment.  At most one application and one state
are open at a time.  Every declaration carries the place from which it is made.
-/

namespace StateSketch

/-- The builder of a new application, which starts at the line of its declaration. -/
def Builder.ofApp (name faultPin : Argument) (site : CallSite) : Except Fault Builder :=
  (Builder.start name faultPin (some site.file)).map ({ · with line := some site.line })

/-- The block of a state.  Its name is checked only when the block is left. -/
structure Scope where
  /-- The application that was open when the block was made. -/
  app : Nat
  name : Argument
  initial : Bool
  site : CallSite
  actions : List Action := []
  transitions : List Transition := []
  /-- The state that the block has become. -/
  state : Option State := none

structure Studio where
  apps : List Builder := []
  scopes : List Scope := []
  /-- The open applications, the last one first. -/
  openApps : List Nat := []
  /-- The open blocks, the last one first. -/
  openScopes : List Nat := []

namespace Studio

/-- Makes an application. -/
def newApp (studio : Studio) (name faultPin : Argument) (site : CallSite) :
    Except Fault Nat × Studio :=
  match Builder.ofApp name faultPin site with
  | .error fault => (.error fault, studio)
  | .ok builder => (.ok studio.apps.length, { studio with apps := studio.apps ++ [builder] })

def enterApp (studio : Studio) (app : Nat) : Except Fault Unit × Studio :=
  match studio.openApps with
  | [] => (.ok (), { studio with openApps := [app] })
  | _ :: _ => (.error .nestedApps, studio)

/-- Closes the open application and any block in it. -/
def exitApp (studio : Studio) : Except Fault Unit × Studio :=
  match studio.openApps with
  | [] => (.error .nothingOpen, studio)
  | _ :: rest => (.ok (), { studio with openApps := rest, openScopes := [] })

/-- Makes the block of a state in the open application. -/
def newScope (studio : Studio) (name : Argument) (initial : Bool) (site : CallSite) :
    Except Fault Nat × Studio :=
  match studio.openApps with
  | [] => (.error (.outsideApp "state"), studio)
  | app :: _ =>
    let scope : Scope := { app := app, name := name, initial := initial, site := site }
    (.ok studio.scopes.length, { studio with scopes := studio.scopes ++ [scope] })

def enterScope (studio : Studio) (scope : Nat) : Except Fault Unit × Studio :=
  match studio.openScopes with
  | [] => (.ok (), { studio with openScopes := [scope] })
  | _ :: _ => (.error .nestedStates, studio)

/-- Runs a builder's call on the program of an application. -/
def onApp {α : Type} (studio : Studio) (app : Nat)
    (call : Builder → Except Fault α × Builder) : Except Fault α × Studio :=
  match studio.apps[app]? with
  | none => (.error .staleHandle, studio)
  | some builder =>
    let (result, changed) := call builder
    (result, { studio with apps := studio.apps.set app changed })

def changeScope (studio : Studio) (scope : Nat) (change : Scope → Scope) : Studio :=
  { studio with scopes := studio.scopes.modify scope change }

/-- Adds the state of a block to the application in which the block was made. -/
def finishScope (studio : Studio) (index : Nat) : Except Fault Unit × Studio :=
  match studio.scopes[index]? with
  | none => (.error .staleHandle, studio)
  | some scope =>
    let (result, built) := studio.onApp scope.app fun builder ↦
      builder.makeState scope.name (.ok (scope.actions.map .action))
        (.ok (scope.transitions.map .transition)) scope.initial scope.site.origin
    match result with
    | .error fault => (.error fault, built)
    | .ok state => (.ok (), built.changeScope index fun scope ↦ { scope with state := some state })

/-- Closes the open block.  The given block becomes a state unless it was left by an exception. -/
def exitScope (studio : Studio) (scope : Nat) (raised : Bool) : Except Fault Unit × Studio :=
  match studio.openScopes with
  | [] => (.error .nothingOpen, studio)
  | _ :: rest =>
    let closed := { studio with openScopes := rest }
    if raised then (.ok (), closed) else closed.finishScope scope

/-- Declares a resource of the open application. -/
def declare (studio : Studio) (kind : ResourceKind) (name port : Argument) (site : CallSite) :
    Except Fault Resource × Studio :=
  match studio.openApps with
  | [] => (.error (.outsideApp kind.word), studio)
  | app :: _ =>
    studio.onApp app fun builder ↦
      builder.registerResource port (.ok kind) name site.origin

/-- Declares a fault state of the open application, outside of any block. -/
def faultState (studio : Studio) (name blinks : Argument) (site : CallSite) :
    Except Fault State × Studio :=
  match studio.openApps with
  | [] => (.error (.outsideApp "fault_state"), studio)
  | app :: _ =>
    match studio.openScopes with
    | _ :: _ => (.error .faultStateInState, studio)
    | [] => studio.onApp app fun builder ↦ builder.makeFaultState name blinks site.origin

/-- Constructs a part of the open block with the builder of the block's application and, unless it
is refused, adds it to the block. -/
def inScope {α : Type} (studio : Studio) (index : Nat)
    (call : Builder → Except Fault α × Builder) (add : Scope → α → Scope) :
    Except Fault α × Studio :=
  match studio.scopes[index]? with
  | none => (.error .staleHandle, studio)
  | some scope =>
    let (result, built) := studio.onApp scope.app call
    match result with
    | .error fault => (.error fault, built)
    | .ok part => (.ok part, built.changeScope index (add · part))

/-- A resource is named by itself or by its name. -/
def resourceName : Argument → Except Fault Argument
  | .resource resource => .ok (.text resource.name)
  | .text name => .ok (.text name)
  | other => .error (.writeTarget other.typeName)

def addAction (scope : Scope) (action : Action) : Scope :=
  { scope with actions := scope.actions ++ [action] }

def addTransition (scope : Scope) (transition : Transition) : Scope :=
  { scope with transitions := scope.transitions ++ [transition] }

/-- An action of the open block. -/
def write (studio : Studio) (target level : Argument) (site : CallSite) :
    Except Fault Action × Studio :=
  match studio.openScopes with
  | [] => (.error (.outsideState "write"), studio)
  | scope :: _ =>
    match resourceName target with
    | .error fault => (.error fault, studio)
    | .ok name => studio.inScope scope (·.makeAction name level site.origin) addAction

/-- A guarded transition of the open block. -/
def when (studio : Studio) (guard target : Argument) (site : CallSite) :
    Except Fault Transition × Studio :=
  match studio.openScopes with
  | [] => (.error (.outsideState "when"), studio)
  | scope :: _ =>
    match guard with
    | .guard _ => studio.inScope scope (·.makeTransition guard target site.origin) addTransition
    | other => (.error (.whenGuard other.typeName), studio)

/-- A delayed transition of the open block. -/
def after (studio : Studio) (milliseconds target : Argument) (site : CallSite) :
    Except Fault Transition × Studio :=
  match studio.openScopes with
  | [] => (.error (.outsideState "after"), studio)
  | scope :: _ =>
    match milliseconds with
    | .integer _ =>
      studio.inScope scope (·.makeTransition milliseconds target site.origin) addTransition
    | other => (.error (.afterDelay other.typeName), studio)

end Studio

end StateSketch
