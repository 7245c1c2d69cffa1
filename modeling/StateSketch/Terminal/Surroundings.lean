import StateSketch.Terminal.Directory
import StateSketch.Terminal.Markup

/-!
# A terminal

Surroundings for a run: a console that reads markup, a directory with nothing in it, and an output
that takes everything.
-/

namespace StateSketch.Terminal

open CommandLine (Surroundings)

def surroundings : Surroundings where
  console := printed
  makeDirectory := (·.checkDirectory)
  write path _ := path.checkFile.mapError fun fault ↦ { fault := fault }
  print _ := .ok ()

end StateSketch.Terminal
