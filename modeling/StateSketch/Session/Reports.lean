import StateSketch.Session.Parts

/-!
# Calls on diagnostics and reports

Diagnostics and reports may be put together from anything, so their texts may fail to exist.
-/

namespace StateSketch.Session

/-- Whether a datum is one of some words. -/
def isAmong (words : List String) (item : Datum) : Session Bool :=
  if item.isObject .set then return false else look (·.hasKey item (Datum.ofTexts words))

/-! ## Diagnostics -/

def advisoryWords : List String :=
  (DiagnosticCode.all.filter (·.isAdvisory)).map (·.word)

/-- The severity of a diagnostic with the given code. -/
def severityOf (code : Datum) : Session Datum := do
  return .text (severityWord (← isAmong advisoryWords code))

def newDiagnostic (code message line file suggestion : Datum) : Session Datum := do
  return .part .diagnostic [code, ← severityOf code, message, line, file, suggestion]

/-- The diagnostic that reports a problem at a place. -/
def problemAt (problem : Problem) (line file : Datum) : Datum :=
  let diagnostic := problem.report {}
  .part .diagnostic [.text diagnostic.code.word, .text diagnostic.severity,
    .text diagnostic.message, line, file, .ofOption .text diagnostic.suggestion]

/-- The texts among the parts of a whole, all of which have to be texts; the first of them has the
given place. -/
def checkTexts (place : Nat) : List Datum → Except Fault (List String)
  | [] => .ok []
  | .text value :: rest => return value :: (← checkTexts (place + 1) rest)
  | other :: _ => .error (.itemNotText place other.fullTypeName)

/-- The file and the line of a diagnostic. -/
def location (line file : Datum) : Session String := do
  let file := if ← isTrue file then [file] else []
  let line ← if line.isNothing then pure [] else pure [Datum.text (← shown line)]
  return ":".intercalate (← check (checkTexts 0 (file ++ line)))

/-- The entry for a diagnostic with any fields.  An error without a place is shown as its message,
whatever that is. -/
def entryOf (severity message line file : Datum) : Session Datum := do
  let location ← location line file
  let text ←
    if ← agree severity (.text "error") then pure message
    else pure (.text ("warning: " ++ (← shown message)))
  if location.isEmpty then return text
  else return .text (location ++ ": " ++ (← shown text))

/-- The entry for a diagnostic. -/
def format (diagnostic : Datum) : Session Datum :=
  match diagnostic.diagnostic? with
  | some diagnostic => return .text (← check diagnostic.format)
  | none =>
    match diagnostic with
    | .part .diagnostic [_, severity, message, line, file, _] => entryOf severity message line file
    | other => cannot other "format"

/-! ## Reports -/

/-- A report with given errors and warnings, whatever their severities. -/
def newReport (errors warnings : Datum) : Session Datum := do
  return .part .report [.tuple (← items errors), .tuple (← items warnings)]

/-- A report on given diagnostics, which are sorted by severity. -/
def reportOn (diagnostics : List Datum) : Session Datum := do
  let marked ← diagnostics.mapM fun diagnostic ↦
    return (diagnostic, ← agree (← member diagnostic "severity") (.text "error"))
  let errors := marked.filter (·.2)
  let warnings := marked.filter (!·.2)
  return .part .report [.tuple (errors.map (·.1)), .tuple (warnings.map (·.1))]

/-- The errors of a report or of an outcome. -/
def errorsOf : Datum → Session Datum
  | .part .emission [_, report] => errorsOf report
  | .object { sort := .buffer, .. } => return .nothing
  | other => member other "errors"

/-- The warnings of a report or of an outcome. -/
def warningsOf : Datum → Session Datum
  | .part .emission [_, report] => warningsOf report
  | other => member other "warnings"

/-- All diagnostics of a report, errors first. -/
def findingsOf (report : Datum) : Session (List Datum) := do
  return (← items (← errorsOf report)) ++ (← items (← warningsOf report))

def codesOf (report : Datum) : Session (List Datum) := do
  (← findingsOf report).mapM (member · "code")

/-- What a report or an outcome comes to. -/
def summaryOf : Datum → Session String
  | .part .report [errors, warnings] => do
    return findingCounts (← items errors).length (← items warnings).length
  | .part .emission [_, report] => do
    let count ← size (← errorsOf report)
    if count = 0 then summaryOf report else return errorCountLine count
  | other => cannot other "summary"

/-- The text of a report with any entries. -/
def textOf (report : Datum) : Session String := do
  let entries ← (← findingsOf report).mapM format
  let count := (← items (← errorsOf report)).length
  let closing : List Datum := if count = 0 then [] else [.text (errorCountLine count)]
  return Text.joinLines (← check (checkTexts 0 (entries ++ closing)))

/-- The text of a report. -/
def formatReport (report : Datum) : Session String :=
  match report.report? with
  | some report => check report.format
  | none => if report.isPart .report then textOf report else cannot report "format"

end StateSketch.Session
