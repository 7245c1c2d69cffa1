/-!
# Paths

A path is written without empty parts and without parts that stay where they are.
-/

namespace StateSketch.CommandLine

structure Path where
  /-- The slashes in front: none, one, or exactly two. -/
  root : String
  parts : List String
deriving DecidableEq

namespace Path

/-- The parts between slashes. -/
def splitSlashes : List Char → List (List Char)
  | [] => [[]]
  | c :: rest =>
    if c = '/' then [] :: splitSlashes rest
    else
      match splitSlashes rest with
      | [] => [[c]]
      | part :: parts => (c :: part) :: parts

def ofText (text : String) : Path where
  root :=
    match (text.toList.takeWhile (· == '/')).length with
    | 0 => ""
    | 2 => "//"
    | _ => "/"
  parts := ((splitSlashes text.toList).map String.ofList).filter fun part ↦
    part != "" && part != "."

def text (path : Path) : String :=
  match path.root, path.parts with
  | "", [] => "."
  | root, parts => root ++ "/".intercalate parts

def parent (path : Path) : Path :=
  { path with parts := path.parts.dropLast }

end Path

end StateSketch.CommandLine
