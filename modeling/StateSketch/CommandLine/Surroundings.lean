import StateSketch.CommandLine.Path
import StateSketch.Fault

/-!
# The surroundings of a run

A run shows messages on a console, makes a directory, writes a file and prints a text.  It does none
of this by itself, and all of it can be refused.  So a run is given the answers that it gets.
-/

namespace StateSketch.CommandLine

/-- Why a text could not be put down, and what is there of it all the same, if anything is. -/
structure Breakdown where
  fault : Fault
  left : Option String := none

/-- The answers to what a run asks for. -/
structure Surroundings where
  /-- The line that the console shows for a marked-up message. -/
  console : String → Except Fault String
  makeDirectory : Path → Except Fault Unit
  write : Path → String → Except Breakdown Unit
  print : String → Except Breakdown Unit

end StateSketch.CommandLine
