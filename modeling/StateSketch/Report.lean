import StateSketch.Diagnostic

/-!
# Reports

A report holds the errors and the warnings of one pass, each in the order of finding.
-/

namespace StateSketch

structure Report where
  errors : List Diagnostic := []
  warnings : List Diagnostic := []
deriving DecidableEq

/-- The closing line that counts errors. -/
def errorCountLine (count : Nat) : String :=
  let ending := if count > 1 then "s" else ""
  s!"**** {count} error{ending}"

/-- The numbers of errors and of warnings in one sentence. -/
def findingCounts (errors warnings : Nat) : String :=
  let counted (count : Nat) (noun : String) : List String :=
    if count = 0 then [] else [s!"{count} {noun}(s)"]
  match counted errors "error" ++ counted warnings "warning" with
  | [] => "No findings."
  | parts => ", ".intercalate parts ++ "."

namespace Report

def ofDiagnostics (diagnostics : List Diagnostic) : Report where
  errors := diagnostics.filter (·.isError)
  warnings := diagnostics.filter (!·.isError)

/-- Errors first. -/
def all (report : Report) : List Diagnostic :=
  report.errors ++ report.warnings

def ok (report : Report) : Bool :=
  report.errors.isEmpty

def codes (report : Report) : List DiagnosticCode :=
  report.all.map (·.code)

def summary (report : Report) : String :=
  findingCounts report.errors.length report.warnings.length

/-- One line for each diagnostic, and a last line with the number of errors if there are any. -/
def lines (report : Report) : List String :=
  report.all.map (·.render) ++
    if report.errors.isEmpty then [] else [errorCountLine report.errors.length]

def render (report : Report) : String :=
  Text.joinLines report.lines

/-- The text of the report, unless one of its entries cannot be shown. -/
def format (report : Report) : Except Fault String := do
  report.all.forM fun diagnostic ↦ discard diagnostic.format
  return report.render

/-- What a compilation with the report comes to: the number of errors, or else of warnings. -/
def verdict (report : Report) : String :=
  if report.errors.isEmpty then report.summary else errorCountLine report.errors.length

end Report

end StateSketch
