import StateSketch.Guard

/-!
# Sketches

The parts of a sketch: declarations, the function that configures the pins, one function for each
state, and the call that starts the machine.  Pins and functions are named by symbols.
-/

namespace StateSketch

/-- How a pin is configured. -/
inductive PinMode where
  | input
  | output
deriving DecidableEq

def PinMode.word : PinMode → String
  | .input => "INPUT"
  | .output => "OUTPUT"

/-- A statement without parts. -/
inductive Step where
  /-- Configures a pin. -/
  | configure (pin : String) (mode : PinMode)
  /-- Drives a pin. -/
  | write (pin : String) (level : Level)
  /-- Sets `guard` to whether more than `debounce` milliseconds have passed since `time`. -/
  | sampleGuard
  /-- Sets `time` to the clock. -/
  | restartClock
  | call (function : String)
  /-- Blinks the fault indicator. -/
  | blink (count : Nat)
deriving DecidableEq

/-- A condition of a branch. -/
inductive Test where
  /-- The condition holds of the readings, and `guard` is set. -/
  | settled (condition : Guard)
  /-- More than so many milliseconds have passed since `time`. -/
  | elapsed (milliseconds : Nat)
deriving DecidableEq

structure Branch where
  test : Test
  body : List Step
deriving DecidableEq

inductive Statement where
  | step (single : Step)
  /-- Runs the first branch whose test is true, or else the last steps. -/
  | choose (first : Branch) (rest : List Branch) (otherwise : List Step)
deriving DecidableEq

/-- A function without parameters and result. -/
structure Function where
  name : String
  body : List Statement
deriving DecidableEq

structure PinDeclaration where
  pin : String
  port : Nat
deriving DecidableEq

structure Sketch where
  /-- The text of the opening comment. -/
  title : String
  /-- The debounce interval in milliseconds. -/
  debounce : Nat
  faultPin : Option Nat
  pins : List PinDeclaration
  setup : List Step
  functions : List Function
  /-- Whether the function that blinks the fault indicator is defined. -/
  blinks : Bool
  /-- The function that `loop` calls. -/
  entry : String
deriving DecidableEq

end StateSketch
