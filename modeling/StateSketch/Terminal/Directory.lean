import StateSketch.CommandLine.Surroundings

/-!
# Writing into an empty directory

What can be made and written by someone who starts in a directory that is otherwise empty.
-/

namespace StateSketch.CommandLine.Path

/-- Follows the parts from a directory given by the parts that lead to it. -/
def follow (start parts : List String) : List String :=
  parts.foldl (fun place part ↦
    if part = ".." then
      if place.isEmpty || place.getLast? == some ".." then place ++ [part] else place.dropLast
    else place ++ [part]) start

/-- The parts of the path once every step back is undone. -/
def resolved (path : Path) : List String :=
  follow [] path.parts

/-- The directories on the way to the last part, which exist once the file's directory does. -/
def directories (path : Path) : List (List String) :=
  (List.range path.parts.length).map fun count ↦ follow [] (path.parts.take count)

/-- Whether the path leads to a directory. -/
def isDirectory (path : Path) : Bool :=
  path.resolved ∈ path.directories || path.parts.isEmpty || path.parts.getLast? == some ".."

/-- The longest name of a file or a directory, in bytes. -/
def nameLimit : Nat := 255

/-- The longest path, in bytes. -/
def pathLimit : Nat := 4095

def exceedsLimit (path : Path) : Bool :=
  path.text.utf8ByteSize > pathLimit

/-- The path that is refused if a directory cannot be made because a name or a whole path is too
long.  In the first place the whole directory is tried, for which all names before the long one have
to exist; only then the directories are made one after the other. -/
def refused? (directory : Path) : Option Path :=
  if directory.exceedsLimit then some directory
  else
    (directory.parts.findIdx? (·.utf8ByteSize > nameLimit)).map fun index ↦
      if (directory.parts.take index).all (· == "..") then directory
      else { directory with parts := directory.parts.take (index + 1) }

/-- Whether the name of the file or its path is too long. -/
def hasLongName (path : Path) : Bool :=
  path.exceedsLimit || path.parts.getLast?.any (·.utf8ByteSize > nameLimit)

def hasNull (path : Path) : Bool :=
  path.parts.any ('\x00' ∈ ·.toList)

/-- A directory that can be made, together with those that lead to it. -/
def checkDirectory (directory : Path) : Except Fault Unit :=
  if directory.hasNull then .error .nullInPath
  else
    match directory.refused? with
    | some refused => .error (.pathTooLong refused.text)
    | none => .ok ()

/-- A file that can be written once its directory is made. -/
def checkFile (path : Path) : Except Fault Unit :=
  if path.hasNull then .error .nullInPath
  else if path.hasLongName then .error (.pathTooLong path.text)
  else if path.isDirectory then .error (.directoryAtPath path.text)
  else .ok ()

end StateSketch.CommandLine.Path
