import StateSketch.CommandLine.Run
import StateSketch.Terminal.Surroundings

/-!
# The program

The system is asked only about the file that a run comes to.  Which one that is shows in a run whose
file meets with no refusal; the run that counts gets the answers of the system.
-/

namespace StateSketch.Terminal

open CommandLine (Path Surroundings Traces)

/-- What the system says to an action. -/
def attempt (action : IO Unit) : IO (Except Fault Unit) :=
  try
    action
    return .ok ()
  catch problem => return .error (.system (toString problem))

/-- The terminal with other answers about the directory and the file. -/
def answering (made written : Except Fault Unit) : Surroundings :=
  { surroundings with
    makeDirectory := fun _ ↦ made
    write := fun _ _ ↦ written.mapError fun fault ↦ { fault := fault } }

/-- Makes the directory of a file and writes the file. -/
def deliver (path : Path) (content : String) : IO Surroundings := do
  match ← attempt (IO.FS.createDirAll path.parent.text) with
  | .error fault => return answering (.error fault) (.ok ())
  | .ok () =>
    return answering (.ok ()) (← attempt (IO.FS.writeFile path.text content))

/-- A run in given surroundings. -/
def perform (surroundings : Surroundings) (arguments : List String) :
    Except Fault Nat × Traces :=
  let errand := CommandLine.perform (CommandLine.modules {} []) arguments
  (((errand.run surroundings).run.run {}).run {}).1

end StateSketch.Terminal

open StateSketch.Terminal in
def main (arguments : List String) : IO UInt32 := do
  let unhindered := answering (.ok ()) (.ok ())
  let surroundings ←
    match (perform unhindered arguments).2.files with
    | (path, content) :: _ => deliver path content
    | [] => pure unhindered
  let (result, traces) := perform surroundings arguments
  for line in traces.messages do
    IO.eprintln line
  IO.print traces.stdout
  match result with
  | .error fault =>
    IO.eprintln fault.message
    return 1
  | .ok exit => return UInt32.ofNat exit
