import StateSketch.Session.Programs
import StateSketch.Session.Symbols

/-!
# Calls on workpieces

The parts of a sketch, one by one.  Anything may be given for the workpiece or for the part of the
program.  A regular part in a regular workpiece is handled as what it can be read as; otherwise a
call goes on step by step until something is missing.
-/

namespace StateSketch.Session

def newPiece (program debounce : Datum) : Session Datum := do
  let resources ← newTable []
  let states ← newTable []
  let helpers ← newSet []
  create .workpiece .empty
    ((ObjectSort.fieldNames .workpiece).zip [program, debounce, resources, states, helpers])

/-! ## Symbols -/

/-- Where a workpiece keeps its symbols. -/
def tableName : SymbolRole → String
  | .resource => "resource_symbols"
  | .state => "state_symbols"

/-- What a workpiece is asked for a symbol by. -/
def requestName : SymbolRole → String
  | .resource => "symbol_for_resource"
  | .state => "symbol_for_state"

/-- The symbol of a resource or a state, whose name may be anything. -/
def symbolFor (piece : Datum) (role : SymbolRole) (name : Datum) : Session Datum := do
  discard <| able piece .workpiece (requestName role)
  let table ← member piece (tableName role)
  match ← look (·.lookUp table name) with
  | some symbol => return symbol
  | none => throw (.unassigned role (← quoted name))

/-- The symbol of a part of a program. -/
def symbolOf (piece : Datum) (role : SymbolRole) (part : Datum) (nameMember : String) :
    Session String := do
  discard <| able piece .workpiece (requestName role)
  shown (← symbolFor piece role (← member part nameMember))

/-- Gives symbols to the names of parts that have none yet. -/
def assignTo (table : Datum) (used : Datum) (stem : String) (reserved : List String)
    (parts : List Datum) : Session Unit :=
  parts.forM fun part ↦ do
    let name ← member part "name"
    unless ← contains table name do
      let symbol ← mangle name (.text stem) used (.tuple (Datum.ofTexts reserved))
      setItem table (name.text?.getD "") (.text symbol)

/-- Puts symbols into a table. -/
def setSymbols (table : Datum) (symbols : List (String × String)) : Session Unit := do
  clear table
  symbols.forM fun (name, symbol) ↦ setItem table name (.text symbol)

/-- Gives a symbol to every name in the program, up to a part that has no fit name. -/
def assignSymbols (piece : Datum) : Session Unit := do
  discard <| able piece .workpiece "assign_symbols"
  let resources ← member piece (tableName .resource)
  let states ← member piece (tableName .state)
  match (← get).piece? piece with
  | some regular =>
    let symbols := regular.assignSymbols.symbols
    setSymbols resources symbols.resources
    setSymbols states symbols.states
  | none =>
    clear resources
    clear states
    let used ← newSet []
    assignTo resources used "" Symbol.reservedWords
      (← items (← memberOf piece "program" "registry"))
    assignTo states used Symbol.stateStem [] (← items (← memberOf piece "program" "states"))

/-! ## Helpers -/

/-- Marks a helper, which can be anything that can be a key. -/
def markHelper (piece helper : Datum) : Session Unit := do
  discard <| able piece .workpiece "mark_helper"
  addItem (← member piece "used_helpers") helper

/-- The marked helpers among those that a sketch can define. -/
def helpersInOrder (piece : Datum) : Session (List String) := do
  discard <| able piece .workpiece "helpers_in_order"
  let marked ← member piece "used_helpers"
  [blinkHelper].filterM fun helper ↦ contains marked (.text helper)

/-! ## Parts of functions -/

/-- Runs a call on the symbols of a regular workpiece and a regular part, or else the steps of the
call. -/
def onSymbols {α β : Type} (piece : Datum) (part : Option β)
    (call : SymbolTable → β → Except Fault α) (steps : Session α) : Session α := do
  match (← get).piece? piece, part with
  | some piece, some part => check (call piece.symbols part)
  | _, _ => steps

/-- The text of a guard with symbols for sensors. -/
def guardTextIn (piece : Datum) : Guard → Session String
  | .reads sensor level => do
    let symbol ← shown (← symbolFor piece .resource (.text sensor))
    return (Guard.reads symbol level).text
  | .both left right => do
    return "(" ++ (← guardTextIn piece left) ++ " && " ++ (← guardTextIn piece right) ++ ")"
  | .either left right => do
    return "(" ++ (← guardTextIn piece left) ++ " || " ++ (← guardTextIn piece right) ++ ")"

def guardText (guard piece : Datum) : Session String :=
  match guard with
  | .guard condition =>
    onSymbols piece (some condition) (fun symbols guard ↦ (symbols.guard guard).map (·.text))
      (guardTextIn piece condition)
  | other => throw (.unsupportedGuard other.typeName)

/-- The text of a transition's test. -/
def testText (transition piece : Datum) : Session String :=
  onSymbols piece transition.transition?
    (fun symbols transition ↦ (symbols.test transition.trigger).map (·.text)) do
    match transition with
    | .part .guarded (guard :: _) => return (← guardText guard piece) ++ " && guard"
    | .part .delayed (milliseconds :: _) =>
      return "millis() - time > " ++ (← shown milliseconds)
    | other => throw (.unsupportedTrigger other.typeName)

/-- The word for a level, which may be anything. -/
def levelWord (level : Datum) : Session String :=
  return (Level.ofBool (← isTrue level)).word

/-- The text of an action. -/
def actionText (action piece : Datum) : Session String :=
  onSymbols piece action.action? (fun symbols action ↦ (symbols.write action).map (·.text)) do
    let pin ← symbolOf piece .resource action "target"
    return "digitalWrite(" ++ pin ++ ", " ++ (← levelWord (← member action "level")) ++ ");"

/-- The branches of transitions; each follows `opening`, which is empty for the first one. -/
def branchLines (piece : Datum) (opening : String) : List Datum → Session (List String)
  | [] => return []
  | transition :: rest => do
    let test ← testText transition piece
    let target ← symbolOf piece .state transition "target_state"
    return (opening ++ "if (" ++ test ++ ") \x7b") ::
      indent 2 [Step.restartClock.text, callText target] ++
      (← branchLines piece "\x7d else " rest)

/-- The lines that go on from a state. -/
def dispatchLines (state piece : Datum) : Session (List String) :=
  onSymbols piece state.state? (fun symbols state ↦ (symbols.dispatch state).map bodyLines) do
    let self := callText (← symbolOf piece .state state "name")
    let transitions ← member state "transitions"
    if !(← isTrue transitions) then return [self]
    let transitions ← items transitions
    let sample := if transitions.any (·.isPart .guarded) then [Step.sampleGuard.text] else []
    return sample ++ (← branchLines piece "" transitions) ++
      ["\x7d else \x7b"] ++ indent 2 [self] ++ ["\x7d"]

/-- The lines of the body of a state with a symbol. -/
def bodyOf (state piece : Datum) (symbol : String) : Session (List String) := do
  if ← isFault state then
    markHelper piece (.text blinkHelper)
    let blinks ← shown (← member state "fault")
    return [blinkHelper ++ "(" ++ blinks ++ ");", callText symbol]
  else
    let writes ← (← items (← member state "actions")).mapM (actionText · piece)
    return writes ++ (← dispatchLines state piece)

/-- Marks the helpers that a call on a regular workpiece has called for. -/
def commitPiece (piece : Datum) (before after : Workpiece) : Session Unit :=
  (after.helpers.drop before.helpers.length).forM fun helper ↦ markHelper piece (.text helper)

/-- The function of a state. -/
def functionLinesOf (state piece : Datum) : Session (List String) := do
  match (← get).piece? piece, state.state? with
  | some before, some state =>
    let (function, after) := before.stateFunction state
    commitPiece piece before after
    return (← check function).lines
  | _, _ =>
    let symbol ← symbolOf piece .state state "name"
    let body ← bodyOf state piece symbol
    return ("void " ++ symbol ++ "() \x7b") :: indent 2 body ++ ["\x7d"]

/-! ## Sections of a sketch -/

/-- What has a program. -/
def programOf (piece : Datum) : Session Datum :=
  match piece with
  | .object { sort := .app, .. } => do
    let builder ← member piece "builder"
    discard <| able builder .builder "build"
    member builder "program"
  | _ => member piece "program"

/-- A part of a workpiece that is worked out from its program. -/
def requirePiece (piece : Datum) (part : String) : Session Unit :=
  if piece.isObject .workpiece then return else discard (member piece part)

/-- Whether there is a pin for the fault indicator. -/
def usesFaultPin (piece : Datum) : Session Bool := do
  requirePiece piece "uses_fault_pin"
  return !(← memberOf piece "program" "fault_pin").isNothing

def headerSection (piece : Datum) : Session (List String) := do
  let program ← programOf piece
  let title ← shown (← member program "name")
  let debounce ← shown (← member piece "debounce_ms")
  let pin ←
    if ← usesFaultPin piece then
      pure (some (← shown (← memberOf piece "program" "fault_pin")))
    else pure none
  return headerLines title debounce pin

/-- The resources of a workpiece. -/
def resourcesIn (piece : Datum) : Session (List Datum) := do
  if piece.isObject .workpiece then items (← memberOf piece "program" "registry")
  else items (← member piece "resources")

/-- The states of a workpiece. -/
def statesIn (piece : Datum) : Session (List Datum) := do
  if piece.isObject .workpiece then items (← memberOf piece "program" "states")
  else items (← member piece "states")

def pinSection (piece : Datum) : Session (List String) := do
  let lines ← (← resourcesIn piece).mapM fun resource ↦ do
    let pin ← symbolOf piece .resource resource "name"
    return "int " ++ pin ++ " = " ++ (← shown (← member resource "port")) ++ ";"
  return if lines.isEmpty then [] else lines ++ [""]

/-- How the pin of a resource is configured. -/
def pinMode (resource : Datum) : Session PinMode := do
  match ← member resource "kind" with
  | .kind (.resource .sensor) => return .input
  | _ => return .output

/-- Whether a program has fault states, which only programs can tell. -/
def tellsFaultStates (program : Datum) : Session Bool := do
  if program.isObject .program then hasFaultStates program
  else isTrue (← member program "has_fault_states")

def setupSection (piece : Datum) : Session (List String) := do
  let prepared : List Step :=
    if ← tellsFaultStates (← programOf piece) then
      [.configure faultPinName .output, .write faultPinName .low]
    else []
  let lines ← (← resourcesIn piece).mapM fun resource ↦ do
    let pin ← symbolOf piece .resource resource "name"
    return (Step.configure pin (← pinMode resource)).text
  return ["void setup() \x7b"] ++ indent 2 (stepLines prepared ++ lines) ++ ["\x7d", ""]

def functionSection (piece : Datum) : Session (List String) := do
  let functions ← (← statesIn piece).mapM (functionLinesOf · piece)
  return functions.flatMap (· ++ [""])

def helperSection (piece : Datum) : Session (List String) := do
  return helperLines (!(← helpersInOrder piece).isEmpty)

def loopSection (piece : Datum) : Session (List String) := do
  match ← member (← programOf piece) "initial" with
  | .nothing => throw .loopWithoutInitial
  | initial => return loopLines (← shown (← symbolFor piece .state initial))

/-- The text of the whole sketch, section by section.  Functions come first, because they call for
the helpers. -/
def codeOf (piece : Datum) : Session String := do
  let functions ← functionSection piece
  let header ← headerSection piece
  let pins ← pinSection piece
  let setup ← setupSection piece
  let helpers ← helperSection piece
  let loop ← loopSection piece
  return Text.joinLines (header ++ pins ++ setup ++ functions ++ helpers ++ loop) ++ "\n"

/-- The text of the whole sketch. -/
def code (piece : Datum) : Session String := do
  match (← get).piece? piece with
  | some before =>
    let (sketch, after) := before.sketch
    commitPiece piece before after
    return (← check sketch).text
  | none => codeOf piece

end StateSketch.Session
