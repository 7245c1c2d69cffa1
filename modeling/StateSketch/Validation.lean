import StateSketch.Program
import StateSketch.Report
import StateSketch.Text.Uppercase

/-!
# Validation

One pass over a program that reports every problem: first the conflicts between resources, then
the problems of each state in turn, then those of the program as a whole, and last what is merely
advisable.
-/

namespace StateSketch

namespace Program

/-- The place of a part of the program, in the program's own file if the part names none. -/
def place (program : Program) (origin : Origin) : Origin :=
  origin.withFallback program.file

def conflictFindings (program : Program) : List Diagnostic :=
  program.registry.conflicts.map fun conflict ↦
    { conflict with origin := program.place conflict.origin }

/-- One finding for each of the names that is not a resource. -/
def resourceFindings (program : Program) (names : List String) (origin : Origin) :
    List Diagnostic :=
  (names.filter (!program.registry.contains ·)).map fun name ↦
    (Problem.undeclaredResource name).report (program.place origin)

def actionFindings (program : Program) (action : Action) : List Diagnostic :=
  program.resourceFindings [action.target] action.origin

def transitionFindings (program : Program) (transition : Transition) : List Diagnostic :=
  program.resourceFindings transition.trigger.sensors transition.origin ++
    if program.containsState transition.target then []
    else [(Problem.undeclaredState transition.target).report (program.place transition.origin)]

/-- Of several states with one name, all but the last are reported. -/
def repetitionFindings (program : Program) (state : State) (later : List State) :
    List Diagnostic :=
  if later.any (·.name == state.name) then
    [(Problem.stateNameUsed state.name).report (program.place state.origin)]
  else []

def stateFindings (program : Program) : List State → List Diagnostic
  | [] => []
  | state :: later =>
    state.actions.flatMap program.actionFindings ++
      state.transitions.flatMap program.transitionFindings ++
      program.repetitionFindings state later ++
      program.stateFindings later

def hasInitialState (program : Program) : Bool :=
  program.initial.any program.containsState

def initialFindings (program : Program) : List Diagnostic :=
  if program.hasInitialState then []
  else [Problem.missingInitialState.report { line := program.endLine, file := program.file }]

/-- The resource on the pin of the fault indicator. -/
def faultPinOwner? (program : Program) : Option Resource :=
  program.faultPin.bind program.registry.ownerOfPort?

def faultPinFindings (program : Program) : List Diagnostic :=
  match program.faultPin with
  | none =>
    program.faultStates.head?.toList.map fun first ↦
      Problem.missingFaultPin.report (program.place first.origin)
  | some pin =>
    program.faultPinOwner?.toList.map fun owner ↦
      (Problem.faultPinUsed (toString pin) owner.name).report (program.place owner.origin)

/-- Whether a text starts with a character that is its own upper case. -/
def startsCapital (text : String) : Bool :=
  match text.toList with
  | [] => true
  | first :: _ => Text.upperChar first == [first]

def nameFindings (program : Program) : List Diagnostic :=
  if startsCapital program.name then []
  else [(Problem.uncapitalizedName program.name).report { file := program.file }]

/-- The line of the initial state, or the last line if there is none. -/
def markingLine (program : Program) : Option Int :=
  match program.initialState? with
  | some state => state.origin.line
  | none => program.endLine

/-- Whether more than one state was marked as the initial one. -/
def hasSeveralMarkings (program : Program) : Bool :=
  1 < program.initialMarkings

def markingFindings (program : Program) : List Diagnostic :=
  if program.hasSeveralMarkings then
    let chosen := program.initial.getD "None"
    [(Problem.severalInitialStates (toString program.initialMarkings) chosen).report
      { line := program.markingLine, file := program.file }]
  else []

def findings (program : Program) : List Diagnostic :=
  program.conflictFindings ++ program.stateFindings program.states ++ program.initialFindings ++
    program.faultPinFindings ++ program.nameFindings ++ program.markingFindings

/-- Whether all findings can be told: the numbers in them must not have too many digits. -/
def isTellable (program : Program) : Bool :=
  !(program.faultPinOwner?.isSome && program.faultPin.any (Text.isTooWide ·)) &&
    !(program.hasSeveralMarkings && Text.isTooWide program.initialMarkings)

def validate (program : Program) : Except Fault Report :=
  if program.isTellable then .ok (Report.ofDiagnostics program.findings)
  else .error .numeralTooWide

end Program

end StateSketch
