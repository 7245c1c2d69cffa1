import StateSketch.Machine
import StateSketch.Registry

/-!
# Programs

A program is what one sketch is made from: a name, resources, states and the choice of the initial
state.
-/

namespace StateSketch

structure Program where
  name : String
  registry : Registry := {}
  states : List State := []
  /-- The name of the initial state. -/
  initial : Option String := none
  /-- The pin of the fault indicator. -/
  faultPin : Option Nat := none
  /-- The last line seen while the program was built. -/
  endLine : Option Int := none
  file : Option String := none
  /-- How many states were marked as the initial one. -/
  initialMarkings : Int := 0
deriving DecidableEq

namespace Program

/-- Appends a state; marked as initial, it replaces the initial state chosen before. -/
def addState (program : Program) (state : State) (initial : Bool) : Program :=
  let extended := { program with states := program.states ++ [state] }
  if initial then
    { extended with
      initial := some state.name
      initialMarkings := program.initialMarkings + 1 }
  else extended

@[simp]
theorem states_addState (program : Program) (state : State) (initial : Bool) :
    (program.addState state initial).states = program.states ++ [state] := by
  cases initial <;> rfl

@[simp]
theorem registry_addState (program : Program) (state : State) (initial : Bool) :
    (program.addState state initial).registry = program.registry := by
  cases initial <;> rfl

def containsState (program : Program) (name : String) : Bool :=
  program.states.any (·.name == name)

@[simp]
theorem containsState_addState (program : Program) (state : State) (initial : Bool)
    (name : String) :
    (program.addState state initial).containsState name =
      (program.containsState name || state.name == name) := by
  simp [containsState]

/-- The last state of a name. -/
def state? (program : Program) (name : String) : Option State :=
  program.states.reverse.find? (·.name == name)

def initialState? (program : Program) : Option State :=
  program.initial.bind program.state?

def faultStates (program : Program) : List State :=
  program.states.filter (·.isFault)

def hasFaultStates (program : Program) : Bool :=
  program.states.any (·.isFault)

/-- Extends `endLine` to cover a line. -/
def reachLine (program : Program) (line : Option Int) : Program :=
  match line, program.endLine with
  | none, _ => program
  | some line, none => { program with endLine := some line }
  | some line, some last => { program with endLine := some (max last line) }

@[simp]
theorem registry_reachLine (program : Program) (line : Option Int) :
    (program.reachLine line).registry = program.registry := by
  unfold reachLine
  split <;> rfl

@[simp]
theorem states_reachLine (program : Program) (line : Option Int) :
    (program.reachLine line).states = program.states := by
  unfold reachLine
  split <;> rfl

end Program

end StateSketch
