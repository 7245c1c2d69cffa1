import StateSketch.Binary64
import StateSketch.Guard
import StateSketch.Kind

/-!
# Data

A datum is a value about which nothing is known beforehand: an argument of a call before it is
checked, or a setting that is never checked.

Parts of programs and reports are data that never change.  They are rows of fields, because a front
end may put anything into those fields that nobody checks.  What can change, and what is an object
of its own, is spoken of by a handle.
-/

namespace StateSketch

/-- What a part is. -/
inductive PartSort where
  | resource
  | action
  /-- A transition with a guard. -/
  | guarded
  /-- A transition with a delay. -/
  | delayed
  | state
  | diagnostic
  | report
  /-- The outcome of a compilation. -/
  | emission
deriving DecidableEq

namespace PartSort

def typeName : PartSort → String
  | .resource => "Resource"
  | .action => "Action"
  | .guarded => "OnExpression"
  | .delayed => "OnDelay"
  | .state => "State"
  | .diagnostic => "Diagnostic"
  | .report => "DiagnosticReport"
  | .emission => "EmitResult"

def fieldNames : PartSort → List String
  | .resource => ["name", "kind", "port", "line", "source_file"]
  | .action => ["target", "level", "line", "source_file"]
  | .guarded => ["guard", "target_state", "line", "source_file"]
  | .delayed => ["milliseconds", "target_state", "line", "source_file"]
  | .state => ["name", "actions", "transitions", "fault", "line", "source_file"]
  | .diagnostic => ["code", "severity", "message", "line", "source_file", "suggestion"]
  | .report => ["errors", "warnings"]
  | .emission => ["source", "diagnostics"]

/-- How many of the fields tell parts apart; where a part was declared does not. -/
def comparedFields : PartSort → Nat
  | .resource => 3
  | .action => 2
  | .guarded => 2
  | .delayed => 2
  | .state => 4
  | .diagnostic => 6
  | .report => 2
  | .emission => 2

end PartSort

/-- What an object is. -/
inductive ObjectSort where
  | list
  | set
  /-- Entries under keys. -/
  | table
  /-- A place that text is written to. -/
  | buffer
  /-- A function without parameters. -/
  | function
  | registry
  | program
  | builder
  | app
  /-- The block of a state. -/
  | scope
  | workpiece
deriving DecidableEq

def ObjectSort.typeName : ObjectSort → String
  | .list => "list"
  | .set => "set"
  | .table => "dict"
  | .buffer => "StringIO"
  | .function => "function"
  | .registry => "Registry"
  | .program => "Program"
  | .builder => "ProgramBuilder"
  | .app => "App"
  | .scope => "StateScope"
  | .workpiece => "CodegenContext"

/-- The members that make up a program or a workpiece. -/
def ObjectSort.fieldNames : ObjectSort → List String
  | .program =>
    ["name", "registry", "states", "initial", "fault_pin", "end_line", "source_file",
      "initial_markings"]
  | .workpiece => ["program", "debounce_ms", "resource_symbols", "state_symbols", "used_helpers"]
  | _ => []

/-- An object, by its number. -/
structure Handle where
  sort : ObjectSort
  index : Nat
deriving DecidableEq

inductive Datum where
  | nothing
  | flag (value : Bool)
  | integer (value : Int)
  | real (value : Binary64)
  | text (value : String)
  | bytes (values : List Nat)
  | kind (constant : Kind)
  | guard (condition : Guard)
  | tuple (items : List Datum)
  | part (sort : PartSort) (fields : List Datum)
  | object (handle : Handle)
deriving Inhabited

namespace Datum

/-- The name of the type in messages. -/
def typeName : Datum → String
  | .nothing => "NoneType"
  | .flag _ => "bool"
  | .integer _ => "int"
  | .real _ => "float"
  | .text _ => "str"
  | .bytes _ => "bytes"
  | .kind constant => constant.family
  | .guard condition => condition.typeName
  | .tuple _ => "tuple"
  | .part sort _ => sort.typeName
  | .object handle => handle.sort.typeName

/-- The type name in messages about operators and built-in functions, where the type of a buffer is
named together with its library. -/
def fullTypeName : Datum → String
  | .object { sort := .buffer, .. } => "_io.StringIO"
  | other => other.typeName

/-! ## Views -/

def isNothing : Datum → Bool
  | .nothing => true
  | _ => false

def isGuard : Datum → Bool
  | .guard _ => true
  | _ => false

def isObject (sort : ObjectSort) : Datum → Bool
  | .object handle => handle.sort == sort
  | _ => false

def isPart (sort : PartSort) : Datum → Bool
  | .part other _ => other == sort
  | _ => false

def text? : Datum → Option String
  | .text value => some value
  | _ => none

/-- The value of a flag or an integer; as a number, `true` is one and `false` is zero. -/
def integer? : Datum → Option Int
  | .flag value => some (if value then 1 else 0)
  | .integer value => some value
  | _ => none

def isReal : Datum → Bool
  | .real _ => true
  | _ => false

/-- Whether the datum is a number with the given value. -/
def isNumber (datum : Datum) (n : Int) : Bool :=
  match datum with
  | .real value => value.isInteger n
  | other => other.integer? == some n

/-- A number as a fraction, an infinite one over zero. -/
def fraction? : Datum → Option (Int × Nat)
  | .real value => value.fraction?
  | other => other.integer?.map (·, 1)

/-! ## Makers -/

def ofOption {α : Type} (form : α → Datum) : Option α → Datum
  | some value => form value
  | none => .nothing

def ofTexts (texts : List String) : List Datum :=
  texts.map .text

end Datum

end StateSketch
