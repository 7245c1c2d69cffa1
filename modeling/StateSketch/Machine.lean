import StateSketch.Guard
import StateSketch.Origin

/-!
# States of a machine

Parts refer to one another by name only, so a transition may name a state that is declared later
or never.
-/

namespace StateSketch

/-- Drives the resource `target` to a level. -/
structure Action where
  target : String
  level : Level
  origin : Origin := {}
deriving DecidableEq

/-- What makes a transition ready: a guard that holds once the readings have settled, or the
milliseconds that have passed since the last transition. -/
inductive Trigger where
  | guard (condition : Guard)
  | delay (milliseconds : Nat)
deriving DecidableEq

namespace Trigger

/-- The name of the form of a transition in messages. -/
def typeName : Trigger → String
  | .guard _ => "OnExpression"
  | .delay _ => "OnDelay"

def sensors : Trigger → List String
  | .guard condition => condition.sensors
  | .delay _ => []

def isGuard : Trigger → Bool
  | .guard _ => true
  | .delay _ => false

end Trigger

structure Transition where
  trigger : Trigger
  target : String
  origin : Origin := {}
deriving DecidableEq

/-- A normal state performs its actions and then takes the first transition that is ready.  A fault
state blinks the fault indicator for ever. -/
inductive Body where
  | normal (actions : List Action) (transitions : List Transition)
  | fault (blinks : Nat)
deriving DecidableEq

structure State where
  name : String
  body : Body := .normal [] []
  origin : Origin := {}
deriving DecidableEq

namespace Action

/-- Equality up to the place of declaration. -/
def agrees (a b : Action) : Bool :=
  a.target == b.target && a.level == b.level

end Action

namespace Transition

/-- Equality up to the place of declaration. -/
def agrees (a b : Transition) : Bool :=
  a.trigger == b.trigger && a.target == b.target

end Transition

namespace State

def actions (state : State) : List Action :=
  match state.body with
  | .normal actions _ => actions
  | .fault _ => []

def transitions (state : State) : List Transition :=
  match state.body with
  | .normal _ transitions => transitions
  | .fault _ => []

def blinks? (state : State) : Option Nat :=
  match state.body with
  | .normal _ _ => none
  | .fault blinks => some blinks

def isFault (state : State) : Bool :=
  state.blinks?.isSome

/-- Equality up to the places of declaration. -/
def agrees (a b : State) : Bool :=
  a.name == b.name && a.blinks? == b.blinks? &&
    a.actions.isEqv b.actions Action.agrees && a.transitions.isEqv b.transitions Transition.agrees

end State

end StateSketch
