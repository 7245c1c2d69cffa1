import StateSketch.Session.Reports
import StateSketch.Symbol.Table

/-!
# Calls that make symbols
-/

namespace StateSketch.Session

/-- Whether a datum is a reserved word. -/
def isReserved (name : Datum) : Session Bool :=
  isAmong Symbol.reservedWords name

/-- The text of a name that is to become an identifier. -/
def nameText : Datum → Session String
  | .text value => return value
  | .bytes _ => throw .textOfBytes
  | other => throw (.notText other.fullTypeName)

def identifier (name : Datum) : Session String :=
  return Symbol.identifier (← nameText name)

/-- A symbol beside those of a set, which is then extended by it. -/
def mangle (name stem used reserved : Datum) : Session String := do
  let sanitized ← identifier name
  let base := (← shown stem) ++ sanitized
  let base := Symbol.unreserved (← contains reserved (.text base)) base
  match (← get).set? used with
  | some items =>
    let symbol := Symbol.fresh base (items.filterMap Datum.text?)
    addItem used (.text symbol)
    return symbol
  | none =>
    discard <| contains used (.text base)
    lacks used "add"

/-! ## Indentation -/

/-- How often something is repeated; a negative count stands for never.  Counts beyond 64 bits are
refused, and so are those for which there is no room. -/
def count : Datum → Except Fault Nat
  | .flag value => .ok value.toNat
  | .integer value =>
    if value < -Workbench.wordLimit ∨ Workbench.wordLimit ≤ value then .error .countTooLarge
    else if 0x80000000 ≤ value then .error .outOfMemory
    else .ok value.toNat
  | other => .error (.notRepeatable other.fullTypeName)

/-- Indents those of the lines that are not empty. -/
def indentLines (lines spaces : Datum) : Session Datum := do
  let margin := "".pushn ' ' (← check (count spaces))
  let indented ← (← items lines).mapM fun line ↦ do
    if ← isTrue line then return .text (margin ++ (← shown line)) else return line
  newList indented

end StateSketch.Session
