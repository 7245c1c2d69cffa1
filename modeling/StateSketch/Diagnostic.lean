import StateSketch.Fault
import StateSketch.Origin

/-!
# Diagnostics

A diagnostic is one finding about a program.  `Problem` lists what can be found; a problem fixes the
code, the message and the suggestion of its diagnostic, and the code fixes the severity.
-/

namespace StateSketch

inductive DiagnosticCode where
  | duplicateResourceName
  | duplicatePort
  | undeclaredResource
  | undeclaredState
  | duplicateStateName
  | missingInitialState
  | missingFaultPin
  | nameCapitalization
  | multipleInitialStates
deriving DecidableEq

namespace DiagnosticCode

def all : List DiagnosticCode :=
  [.duplicateResourceName, .duplicatePort, .undeclaredResource, .undeclaredState,
    .duplicateStateName, .missingInitialState, .missingFaultPin, .nameCapitalization,
    .multipleInitialStates]

def word : DiagnosticCode → String
  | .duplicateResourceName => "DUPLICATE_RESOURCE_NAME"
  | .duplicatePort => "DUPLICATE_PORT"
  | .undeclaredResource => "UNDECLARED_RESOURCE"
  | .undeclaredState => "UNDECLARED_STATE"
  | .duplicateStateName => "DUPLICATE_STATE_NAME"
  | .missingInitialState => "MISSING_INITIAL_STATE"
  | .missingFaultPin => "MISSING_FAULT_PIN"
  | .nameCapitalization => "APP_NAME_CAPITALIZATION"
  | .multipleInitialStates => "MULTIPLE_INITIAL_STATES"

def ofWord? (text : String) : Option DiagnosticCode :=
  all.find? (·.word == text)

/-- A finding with such a code never stands in the way of a sketch. -/
def isAdvisory : DiagnosticCode → Bool
  | .nameCapitalization => true
  | .multipleInitialStates => true
  | _ => false

end DiagnosticCode

def severityWord (advisory : Bool) : String :=
  if advisory then "warning" else "error"

structure Diagnostic where
  code : DiagnosticCode
  message : String
  origin : Origin := {}
  suggestion : Option String := none
deriving DecidableEq

namespace Diagnostic

def isError (diagnostic : Diagnostic) : Bool :=
  !diagnostic.code.isAdvisory

def severity (diagnostic : Diagnostic) : String :=
  severityWord diagnostic.code.isAdvisory

/-- The file and the line, each left out if unknown; an empty file name counts as unknown. -/
def location (diagnostic : Diagnostic) : String :=
  let file := (firstFile diagnostic.origin.file none).toList
  let line := diagnostic.origin.line.toList.map toString
  ":".intercalate (file ++ line)

/-- The diagnostic as one entry `file:line: message`. -/
def render (diagnostic : Diagnostic) : String :=
  let text :=
    if diagnostic.isError then diagnostic.message else "warning: " ++ diagnostic.message
  if diagnostic.location.isEmpty then text else diagnostic.location ++ ": " ++ text

/-- The entry for the diagnostic, unless its line cannot be shown. -/
def format (diagnostic : Diagnostic) : Except Fault String := do
  diagnostic.origin.line.forM Fault.checkWidth
  return diagnostic.render

end Diagnostic

/-- What can be found about a program.  Names and numbers are given as they are shown. -/
inductive Problem where
  | resourceNameUsed (name : String)
  | portUsed (port owner : String)
  | undeclaredResource (name : String)
  | undeclaredState (name : String)
  | stateNameUsed (name : String)
  | missingInitialState
  | missingFaultPin
  | faultPinUsed (pin owner : String)
  | uncapitalizedName (name : String)
  | severalInitialStates (count chosen : String)
deriving DecidableEq

namespace Problem

def code : Problem → DiagnosticCode
  | .resourceNameUsed _ => .duplicateResourceName
  | .portUsed _ _ => .duplicatePort
  | .undeclaredResource _ => .undeclaredResource
  | .undeclaredState _ => .undeclaredState
  | .stateNameUsed _ => .duplicateStateName
  | .missingInitialState => .missingInitialState
  | .missingFaultPin => .missingFaultPin
  | .faultPinUsed _ _ => .duplicatePort
  | .uncapitalizedName _ => .nameCapitalization
  | .severalInitialStates _ _ => .multipleInitialStates

def message : Problem → String
  | .resourceNameUsed name => s!"name '{name}' was already used"
  | .portUsed port owner => s!"port {port} was already used by '{owner}'"
  | .undeclaredResource name => s!"undeclared '{name}'"
  | .undeclaredState name => s!"undeclared state '{name}'"
  | .stateNameUsed name => s!"duplicate state name: '{name}'"
  | .missingInitialState => "no initial state declared"
  | .missingFaultPin => "a fault pin is required when fault states are defined"
  | .faultPinUsed pin owner => s!"port {pin} was already used by '{owner}'"
  | .uncapitalizedName name => s!"application name '{name}' should start with a capital"
  | .severalInitialStates count chosen =>
    s!"{count} states are marked initial; '{chosen}' (the last one) is used"

def suggestion : Problem → Option String
  | .undeclaredState _ => some "Declare the target state or fix the transition's target name."
  | .missingInitialState => some "Mark exactly one state as initial."
  | .missingFaultPin => some "Pass fault_pin=<pin> when creating the program."
  | .faultPinUsed _ _ => some "The fault pin must not be shared with a declared resource."
  | _ => none

/-- The diagnostic that reports the problem at a place. -/
def report (problem : Problem) (origin : Origin) : Diagnostic where
  code := problem.code
  message := problem.message
  origin := origin
  suggestion := problem.suggestion

end Problem

end StateSketch
