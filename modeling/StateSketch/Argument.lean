import StateSketch.Machine
import StateSketch.Registry

/-!
# Arguments

What a front end hands in before it is checked.  The constructors of parts ask for names, levels,
ports and guards, and for parts made before; anything else is known by the name of its type only.
-/

namespace StateSketch

/-- An argument before it is checked. -/
inductive Argument where
  | nothing
  | flag (value : Bool)
  | integer (value : Int)
  | text (value : String)
  | guard (condition : Guard)
  | resource (declared : Resource)
  | action (step : Action)
  | transition (edge : Transition)
  /-- Anything else. -/
  | foreign (typeName : String)
deriving DecidableEq

/-- What an argument yields when it is gone through, or the fault that it cannot be gone through. -/
abbrev Argument.Items := Except Fault (List Argument)

namespace Argument

/-- The name of the type in messages. -/
def typeName : Argument → String
  | .nothing => "NoneType"
  | .flag _ => "bool"
  | .integer _ => "int"
  | .text _ => "str"
  | .guard condition => condition.typeName
  | .resource _ => "Resource"
  | .action _ => "Action"
  | .transition edge => edge.trigger.typeName
  | .foreign typeName => typeName

/-! ## Checks

The views of an argument that constructors ask for, each with the fault of one that does not fit. -/

/-- A name in some role has to be a text that is not empty. -/
def name (role : NameRole) : Argument → Except Fault String
  | .text value => if value.isEmpty then .error (.emptyName role) else .ok value
  | _ => .error (.emptyName role)

def level : Argument → Except Fault Level
  | .flag value => .ok (.ofBool value)
  | .integer value =>
    if value = 0 then .ok .low
    else if value = 1 then .ok .high
    else .error (.showing value (.levelNotBit value))
  | .text value =>
    match Level.ofWord? value with
    | some level => .ok level
    | none => .error (.levelNotWord value)
  | other => .error (.levelType other.typeName)

def toGuard (role : GuardRole) : Argument → Except Fault Guard
  | .guard condition => .ok condition
  | other => .error (.notGuard role other.typeName)

def port : Argument → Except Fault Nat
  | .integer value =>
    if value < 0 then .error (.showing value (.portNegative value)) else .ok value.toNat
  | other => .error (.portType other.typeName)

def delay : Argument → Except Fault Nat
  | .integer value =>
    if value < 0 then .error (.showing value (.delayNegative value)) else .ok value.toNat
  | other => .error (.delayType other.typeName)

/-- The debounce interval in milliseconds. -/
def debounce : Argument → Except Fault Nat
  | .integer value => if value < 0 then .error .debounceNegative else .ok value.toNat
  | other => .error (.debounceType other.typeName)

/-- The pin of the fault indicator, if there is one. -/
def faultPin : Argument → Except Fault (Option Nat)
  | .nothing => .ok none
  | .integer value => if value < 0 then .error .faultPinNegative else .ok (some value.toNat)
  | other => .error (.faultPinType other.typeName)

def toAction : Argument → Except Fault Action
  | .action step => .ok step
  | other => .error (.statePart "actions" other.typeName)

def toTransition : Argument → Except Fault Transition
  | .transition edge => .ok edge
  | other => .error (.statePart "transitions" other.typeName)

end Argument

end StateSketch
