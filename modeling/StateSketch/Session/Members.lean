import StateSketch.Session.Pieces

/-!
# The members of objects

What an object shows of itself, and what it can be asked for.  Some members are worked out from
others when they are asked for, which may fail.
-/

namespace StateSketch.Session

/-- A member of a datum, whether it is kept there or worked out. -/
def field (target : Datum) (name : String) : Session Datum :=
  match target, name with
  | .object { sort := .program, .. }, "initial_state" => initialState target
  | .object { sort := .program, .. }, "fault_states" => do
    return .tuple (← faultStates target)
  | .object { sort := .program, .. }, "has_fault_states" => do
    return .flag (← hasFaultStates target)
  | .object { sort := .app, .. }, "program" => programOf target
  | .object { sort := .workpiece, .. }, "resources" => do newList (← resourcesIn target)
  | .object { sort := .workpiece, .. }, "states" => do newList (← statesIn target)
  | .object { sort := .workpiece, .. }, "uses_fault_pin" => do
    return .flag (← usesFaultPin target)
  | _, "errors" => errorsOf target
  | _, "warnings" => warningsOf target
  | _, _ => member target name

/-- The items of a set in order. -/
def sortedItems (target : Datum) : Session (List Datum) := do
  return Workbench.sorted (← items target)

/-- The entries of a table, each as a key and a value. -/
def entryPairs (target : Datum) : Session (List Datum) := do
  match target with
  | .object handle =>
    return ((← get).entriesAt handle).map fun (key, value) ↦ .tuple [.text key, value]
  | _ => return []

/-- The names under which an object shows members that it can be asked for. -/
def shownNames : ObjectSort → List String
  | .program => ObjectSort.fieldNames .program
  | .builder => ["lineno", "program"]
  | .app => ["builder"]
  | .scope => ["name", "initial", "actions", "transitions", "state"]
  | .workpiece =>
    ["debounce_ms", "resource_symbols", "state_symbols", "used_helpers", "uses_fault_pin"]
  | _ => []

/-- What an object shows of itself, in order; each member is asked for when its turn comes. -/
def members (target : Datum) : List (String × Session Datum) :=
  match target with
  | .guard condition =>
    (Workbench.guardMembers condition).map fun (name, value) ↦ (name, pure value)
  | .part .report _ =>
    [("errors", errorsOf target), ("warnings", warningsOf target), ("ok", member target "ok"),
      ("codes", do newList (← codesOf target)), ("summary", .text <$> summaryOf target),
      ("format", .text <$> formatReport target)]
  | .part .emission _ =>
    [("source", member target "source"), ("ok", member target "ok"),
      ("errors", errorsOf target), ("warnings", warningsOf target),
      ("summary", .text <$> summaryOf target),
      ("format", do return .text (← formatReport (← member target "diagnostics")))]
  | .part sort fields =>
    (Workbench.partMembers sort fields).map fun (name, value) ↦ (name, pure value)
  | .object { sort := .registry, .. } =>
    [("resources", do newList (← items target)), ("conflicts", member target "conflicts")]
  | .object { sort := .buffer, .. } =>
    [("value", do return .text (← bufferText (← able target .buffer "getvalue")))]
  | .object handle => (shownNames handle.sort).map fun name ↦ (name, field target name)
  | _ => []

end StateSketch.Session
