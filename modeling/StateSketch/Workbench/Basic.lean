import StateSketch.Compilation
import StateSketch.Datum

/-!
# The workbench

The objects of one session.  Objects are spoken of by handles, and what happens to an object is
seen through every handle to it: a program holds its registry and its list of states by handles, so
several programs can hold them in common.  Nothing stops a front end from putting something else in
their place, so a member of an object can be any datum.
-/

namespace StateSketch

/-- What an object holds besides its members. -/
inductive Content where
  | empty
  /-- The items of a list or a set. -/
  | items (items : List Datum)
  | entries (entries : List (String × Datum))
  /-- The text written to a buffer; one that has been closed has none. -/
  | written (text : Option String)
  /-- What a function gives. -/
  | result (value : Datum)

/-- An object: what it is, what it holds, and its members by name. -/
structure Thing where
  sort : ObjectSort
  content : Content := .empty
  members : List (String × Datum) := []

/-- Replaces the value of a name, or adds the name at the end. -/
def setEntry (name : String) (value : Datum) : List (String × Datum) → List (String × Datum)
  | [] => [(name, value)]
  | entry :: rest =>
    if entry.1 == name then (name, value) :: rest else entry :: setEntry name value rest

structure Workbench where
  things : Array Thing := #[]
  /-- The open applications by their numbers, the last one first. -/
  openApps : List Nat := []
  /-- The open blocks by their numbers, the last one first. -/
  openScopes : List Nat := []
  /-- What has been attached to constants. -/
  attached : List ((Kind × String) × Datum) := []
  /-- How many marks have been given to what is not a number. -/
  marks : Nat := 0
  /-- What the calls have logged. -/
  journal : List LogEntry := []

namespace Workbench

def content (bench : Workbench) (handle : Handle) : Content :=
  (bench.things[handle.index]?.map (·.content)).getD .empty

def members (bench : Workbench) (handle : Handle) : List (String × Datum) :=
  (bench.things[handle.index]?.map (·.members)).getD []

/-- The numbers of the objects of a sort, in the order in which they were made. -/
def numbersOf (bench : Workbench) (sort : ObjectSort) : List Nat :=
  (List.range bench.things.size).filter fun index ↦ bench.things[index]?.any (·.sort == sort)

/-- The items of a list or a set. -/
def itemsAt (bench : Workbench) (handle : Handle) : List Datum :=
  match bench.content handle with
  | .items items => items
  | _ => []

def entriesAt (bench : Workbench) (handle : Handle) : List (String × Datum) :=
  match bench.content handle with
  | .entries entries => entries
  | _ => []

/-- The text of a buffer that has not been closed. -/
def textAt? (bench : Workbench) (handle : Handle) : Option String :=
  match bench.content handle with
  | .written text => text
  | _ => none

/-- What was put into an object under a name. -/
def stored? (bench : Workbench) (handle : Handle) (name : String) : Option Datum :=
  (bench.members handle).lookup name

/-! ## Members -/

/-- The members of a guard. -/
def guardMembers : Guard → List (String × Datum)
  | .reads sensor level => [("sensor", .text sensor), ("level", .flag level.toBool)]
  | .both left right => [("left", .guard left), ("right", .guard right)]
  | .either left right => [("left", .guard left), ("right", .guard right)]

def partMembers (sort : PartSort) (fields : List Datum) : List (String × Datum) :=
  sort.fieldNames.zip fields

/-- What a part tells of itself besides its fields. -/
def derivedMember? (sort : PartSort) (fields : List Datum) (name : String) : Option Datum :=
  match sort, fields, name with
  | .resource, [_, .kind constant, _, _, _], "is_sensor" =>
    some (.flag (constant == .resource .sensor))
  | .state, [_, _, _, fault, _, _], "is_fault" => some (.flag !fault.isNothing)
  | .report, [.tuple errors, _], "ok" => some (.flag errors.isEmpty)
  | .emission, [source, _], "ok" => some (.flag !source.isNothing)
  | _, _, _ => none

/-- A member under another name, which it keeps to itself. -/
def ownName : ObjectSort → String → String
  | .app, "builder" => "_builder"
  | .builder, "program" => "_program"
  | _, name => name

/-- A member of a datum that does not have to be worked out from others. -/
def member? (bench : Workbench) (target : Datum) (name : String) : Option Datum :=
  match target with
  | .kind constant =>
    match name with
    | "name" => some (.text constant.constant)
    | "value" => some (.text constant.word)
    | _ => bench.attached.lookup (constant, name)
  | .guard condition => (guardMembers condition).lookup name
  | .part sort fields => (partMembers sort fields).lookup name <|> derivedMember? sort fields name
  | .object handle => bench.stored? handle (ownName handle.sort name)
  | _ => none

def member (bench : Workbench) (target : Datum) (name : String) : Except Fault Datum :=
  match bench.member? target name with
  | some value => .ok value
  | none => .error (.missingPart target.fullTypeName name)

end Workbench

end StateSketch
