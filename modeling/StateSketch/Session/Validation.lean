import StateSketch.Session.Programs

/-!
# Calls that validate

A regular program is validated as the program that it can be read as.  Of any other program the
parts are looked at one by one, in the same order, until something is missing.
-/

namespace StateSketch.Session

/-- The file of a part of a program, or else of the program. -/
def fileOf (part program : Datum) : Session Datum := do
  let file := ((← get).member? part "source_file").getD .nothing
  orElse file (member program "source_file")

/-- A copy of a part with another file.  Programs are checked again as they are copied, and
workpieces have no file. -/
def copyWithFile (part file : Datum) : Session Datum := do
  match part with
  | .part sort fields =>
    let place := sort.fieldNames.idxOf "source_file"
    return .part sort (fields.set place file)
  | .object { sort := .program, .. } =>
    let name ← member part "name"
    let faultPin ← member part "fault_pin"
    newProgram name (some (← member part "registry")) (some (← member part "states"))
      (← member part "initial") faultPin (← member part "end_line") file
      (← member part "initial_markings")
  | .object { sort := .workpiece, .. } =>
    throw (.unknownOption "CodegenContext.__init__" "source_file")
  | _ => throw .notCopyable

/-- The conflicts between resources. -/
def conflictFindings (program : Datum) : Session (List Datum) := do
  (← items (← memberOf program "registry" "conflicts")).mapM fun conflict ↦ do
    let file ← orElse (← member conflict "source_file") (member program "source_file")
    copyWithFile conflict file

/-! ## States -/

/-- Whether the registry of a program has a resource of a name, which is worked out last. -/
def isDeclared (registry : Datum) (name : Session Datum) : Session Bool := do
  unless registry.isObject .registry || ((← get).member? registry "contains").isSome do
    lacks registry "contains"
  containsResource registry (← name)

def actionFindings (program action : Datum) : Session (List Datum) := do
  if ← isDeclared (← member program "registry") (member action "target") then return []
  let target ← shown (← member action "target")
  return [problemAt (.undeclaredResource target) (← member action "line")
    (← fileOf action program)]

/-- A finding for each sensor of a guard that is not declared. -/
def sensorFindings (registry line file : Datum) (guard : Guard) : Session (List Datum) := do
  let undeclared ← guard.sensors.filterM fun sensor ↦
    return !(← isDeclared registry (return .text sensor))
  return undeclared.map fun sensor ↦ problemAt (.undeclaredResource sensor) line file

def transitionFindings (program transition : Datum) : Session (List Datum) := do
  let file ← fileOf transition program
  let sensors ← match transition with
    | .part .guarded [.guard guard, _, line, _] =>
      sensorFindings (← member program "registry") line file guard
    | _ => pure []
  let target ← member transition "target_state"
  if ← containsState program target then return sensors
  let problem := Problem.undeclaredState (← shown target)
  return sensors ++ [problemAt problem (← member transition "line") file]

/-- Whether a state has the name of a later one. -/
def isRepeated (state : Datum) : List Datum → Session Bool
  | [] => return false
  | later :: rest => do
    if ← agree (← member later "name") (← member state "name") then return true
    else isRepeated state rest

/-- Of several states with one name, all but the last are reported. -/
def repetitionFindings (program state : Datum) (index : Nat) : Session (List Datum) := do
  let states ← member program "states"
  let later ← look (·.itemsFrom (index + 1) states)
  if ← isRepeated state later then
    let problem := Problem.stateNameUsed (← shown (← member state "name"))
    return [problemAt problem (← member state "line") (← fileOf state program)]
  else return []

def stateFindings (program : Datum) (index : Nat) : List Datum → Session (List Datum)
  | [] => return []
  | state :: rest => do
    let actions ← (← items (← member state "actions")).mapM (actionFindings program)
    let transitions ←
      (← items (← member state "transitions")).mapM (transitionFindings program)
    let repetitions ← repetitionFindings program state index
    return actions.flatten ++ transitions.flatten ++ repetitions ++
      (← stateFindings program (index + 1) rest)

/-! ## The program as a whole -/

def initialFindings (program : Datum) : Session (List Datum) := do
  let initial ← member program "initial"
  let found ← if initial.isNothing then pure false else containsState program initial
  if found then return []
  return [problemAt .missingInitialState (← member program "end_line")
    (← member program "source_file")]

def faultPinFindings (program : Datum) : Session (List Datum) := do
  let faultStates ← faultStates program
  match ← member program "fault_pin" with
  | .nothing =>
    match faultStates with
    | [] => return []
    | first :: _ =>
      return [problemAt .missingFaultPin (← member first "line") (← fileOf first program)]
  | pin =>
    match ← ownerOfPort (← member program "registry") pin with
    | .nothing => return []
    | owner =>
      let problem := Problem.faultPinUsed (← shown pin) (← shown (← member owner "name"))
      return [problemAt problem (← member owner "line") (← fileOf owner program)]

/-- Whether the first character of a name is its own upper case; bytes stand for their
characters. -/
def isCapitalized (name : Datum) : Session Bool := do
  discard <| look (·.itemsFrom 0 name)
  match name with
  | .text name => return Program.startsCapital name
  | .bytes values => return (values.take 1).all fun value ↦ value < 97 || 122 < value
  | other => lacks other "upper"

def nameFindings (program : Datum) : Session (List Datum) := do
  let name ← member program "name"
  if ← isCapitalized name then return []
  return [problemAt (.uncapitalizedName (← shown name)) .nothing (← member program "source_file")]

def markingFindings (program : Datum) : Session (List Datum) := do
  let markings ← member program "initial_markings"
  if ← exceeds markings (.integer 1) then
    let state ← initialState program
    let problem := Problem.severalInitialStates (← shown markings)
      (← shown (← member program "initial"))
    let line ← if state.isNothing then member program "end_line" else member state "line"
    return [problemAt problem line (← member program "source_file")]
  else return []

/-- The findings about any program. -/
def findings (program : Datum) : Session (List Datum) := do
  let conflicts ← conflictFindings program
  let states ← stateFindings program 0 (← statesOf program)
  let initial ← initialFindings program
  let faultPin ← faultPinFindings program
  let name ← nameFindings program
  let markings ← markingFindings program
  return conflicts ++ states ++ initial ++ faultPin ++ name ++ markings

/-- The report on a program. -/
def validateProgram (program : Datum) : Session Datum := do
  checkProgram program
  match (← get).program? program with
  | some program => return (← check program.validate).datum
  | none => reportOn (← findings program)

/-- The report that a program gives on itself. -/
def validate (program : Datum) : Session Datum := do
  discard <| able program .program "validate"
  validateProgram program

end StateSketch.Session
