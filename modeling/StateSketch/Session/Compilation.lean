import StateSketch.Session.Builders
import StateSketch.Session.Pieces
import StateSketch.Session.Validation

/-!
# Calls that compile

A regular program is compiled as the program that it can be read as.  Any other program is validated
and emitted step by step.
-/

namespace StateSketch.Session

/-- The debounce interval if none is given. -/
def defaultDebounce : Datum := .integer 200

/-- The text of the sketch of any program. -/
def emitSteps (program debounce : Datum) : Session String := do
  let piece ← newPiece program debounce
  assignSymbols piece
  let source ← codeOf piece
  let states ← size (← member program "states")
  log [.rendered states (← quoted (← member program "name")) source]
  return source

/-- The errors of a report. -/
def errorItems (report : Datum) : Session (List Datum) := do
  items (← errorsOf report)

/-- Compiles any program. -/
def compileSteps (program out debounce : Datum) : Session Datum := do
  let report ← validate program
  let warnings ← items (← warningsOf report)
  warnings.forM fun warning ↦ do log [.advisory (← shown (← format warning))]
  if (← errorItems report).isEmpty then
    let source ← emitSteps program debounce
    write out source
    return .part .emission [.text source, .part .report [.tuple [], .tuple warnings]]
  else
    log [.refused (← quoted (← member program "name")) (← summaryOf report)]
    return .part .emission [.nothing, report]

/-- Compiles a program and writes the text of the sketch, if there is one. -/
def compileProgram (program out debounce : Datum) : Session Datum := do
  checkProgram program
  let interval ← check debounce.argument.debounce
  match (← get).program? program with
  | some program =>
    let (result, entries) := program.compile interval
    log entries
    let emission ← check result
    if let some source := emission.source then write out source
    return emission.datum
  | none => compileSteps program out debounce

/-- Emits any program or refuses it with a list of its errors. -/
def generateSteps (program debounce : Datum) : Session String := do
  let errors ← errorItems (← validate program)
  if errors.isEmpty then emitSteps program debounce
  else
    let entries ← errors.mapM fun error ↦ do
      return (← shown (← member error "code")) ++ " @ " ++ (← shown (← format error))
    throw (.rejected (s!"{errors.length} error(s)." :: entries))

/-- The text of the sketch of a program. -/
def generate (program debounce : Datum) : Session String := do
  checkProgram program
  let interval ← check debounce.argument.debounce
  match (← get).program? program with
  | some program =>
    let (result, entries) := program.generate interval
    log entries
    check result
  | none => generateSteps program debounce

/-- Puts a program together from its parts and compiles it. -/
def compileParts (name faultPin registry states initial file out debounce : Datum) :
    Session Datum := do
  unless registry.isObject .registry do throw (.notRegistry registry.typeName)
  let states ← newList (← items states)
  let program ← newProgram name (some registry) (some states) initial faultPin .nothing file
    (.integer 0)
  compileProgram program out debounce

/-! ## Builders and applications -/

/-- Compiles with named options, of which only the debounce interval is known.  The program is given
by the call already. -/
def compileWith (program out : Datum) (options : List (String × Datum)) : Session Datum := do
  match options.find? (·.1 != "debounce_ms") with
  | some ("program", _) => throw (.repeatedOption "compile_program" "program")
  | some (option, _) => throw (.unknownOption "compile_program" option)
  | none => compileProgram program out ((options.lookup "debounce_ms").getD defaultDebounce)

/-- Compiles the program of a builder or of an application, which has a builder or, just as well,
another application. -/
def compileWithin (out : Datum) (options : List (String × Datum)) : Nat → Datum → Session Datum
  | 0, _ => throw .tooDeep
  | depth + 1, target => do
    checkAbility target "compile"
    match target with
    | .object { sort := .builder, .. } => compileWith (← member target "program") out options
    | .object { sort := .app, .. } =>
      compileWithin out options depth (← member target "builder")
    | _ => lacks target "compile"

/-- Compiles the program of a builder or of an application. -/
def compile (target out : Datum) (options : List (String × Datum)) : Session Datum :=
  compileWithin out options Workbench.depthLimit target

/-- Validates the program of a builder or of an application, or a program itself. -/
def validateWithin : Nat → Datum → Session Datum
  | 0, _ => throw .tooDeep
  | depth + 1, target =>
    match target with
    | .object { sort := .builder, .. } => do
      checkAbility target "validate"
      validateWithin depth (← member target "program")
    | .object { sort := .app, .. } => do
      checkAbility target "validate"
      validateWithin depth (← member target "builder")
    | _ => validate target

/-- Validates a program, wherever it is. -/
def validateAny (target : Datum) : Session Datum :=
  validateWithin Workbench.depthLimit target

end StateSketch.Session
