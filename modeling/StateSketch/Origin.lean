/-!
# Where a part of a program was written
-/

namespace StateSketch

/-- The line and the file of a declaration, as far as they are known. -/
structure Origin where
  line : Option Int := none
  file : Option String := none
deriving DecidableEq

/-- The place from which a declaration is made. -/
structure CallSite where
  file : String
  line : Int
deriving DecidableEq

def CallSite.origin (site : CallSite) : Origin where
  line := some site.line
  file := some site.file

/-- The first of two file names that is known and not empty, or else the second. -/
def firstFile (file fallback : Option String) : Option String :=
  match file with
  | some name => if name.isEmpty then fallback else some name
  | none => fallback

/-- Fills in a missing or empty file name. -/
def Origin.withFallback (origin : Origin) (fallback : Option String) : Origin where
  line := origin.line
  file := firstFile origin.file fallback

end StateSketch
