import StateSketch.Workbench.Equality

/-!
# Collections

What a datum yields when it is gone through, what it contains, and what it has at an index.  A
registry is gone through by its resources, and a buffer by the lines that are still to be read.
-/

namespace StateSketch.Workbench

/-- Where a registry keeps its resources. -/
def resourcesName : String := "_resources"

/-- The lines of a buffer that are still to be read: none, as a buffer is read from its end. -/
def unreadLines (bench : Workbench) (handle : Handle) : Except Fault (List Datum) :=
  match bench.textAt? handle with
  | some _ => .ok []
  | none => .error .bufferNotOpen

/-- What a registry has for its resources, through registries in the place of resources. -/
def innermost (bench : Workbench) : Nat → Datum → Except Fault Datum
  | 0, _ => .error .tooDeep
  | depth + 1, datum =>
    if datum.isObject .registry then do
      bench.innermost depth (← bench.member datum resourcesName)
    else .ok datum

/-- The parts that a datum yields when it is gone through: the characters of a text, the keys of a
table, the numbers of a byte string. -/
def items (bench : Workbench) (datum : Datum) : Except Fault (List Datum) := do
  match ← bench.innermost depthLimit datum with
  | .tuple items => return items
  | .text value => return value.toList.map fun c ↦ .text (String.ofList [c])
  | .bytes values => return values.map fun value ↦ .integer (value : Nat)
  | .object handle =>
    match handle.sort with
    | .list => return bench.itemsAt handle
    | .set => return bench.itemsAt handle
    | .table => return (bench.entriesAt handle).map fun entry ↦ .text entry.1
    | .buffer => bench.unreadLines handle
    | _ => throw (.notCollection handle.sort.typeName)
  | other => throw (.notCollection other.fullTypeName)

/-- The number of parts of a collection. -/
def size (bench : Workbench) (datum : Datum) : Except Fault Nat := do
  let inner ← bench.innermost depthLimit datum
  if inner.isObject .buffer then throw (.notMeasurable inner.fullTypeName)
  match bench.items inner with
  | .ok items => return items.length
  | .error _ => throw (.notMeasurable inner.fullTypeName)

/-- Whether a datum counts as a yes: everything does but nothing, `false`, zero and what is
empty. -/
def isTrue (bench : Workbench) : Datum → Except Fault Bool
  | .nothing => .ok false
  | .flag value => .ok value
  | .integer value => .ok (value != 0)
  | .real value => .ok !value.isZero
  | .text value => .ok !value.isEmpty
  | .bytes values => .ok !values.isEmpty
  | .tuple items => .ok !items.isEmpty
  | .object handle =>
    match handle.sort with
    | .list => .ok !(bench.itemsAt handle).isEmpty
    | .set => .ok !(bench.itemsAt handle).isEmpty
    | .table => .ok !(bench.entriesAt handle).isEmpty
    | .registry => do return (← bench.size (.object handle)) != 0
    | _ => .ok true
  | _ => .ok true

/-- Whether one list is a stretch of another. -/
def occursIn {α : Type} [BEq α] (part : List α) : List α → Bool
  | [] => part.isEmpty
  | x :: rest => part.isPrefixOf (x :: rest) || occursIn part rest

/-- Whether one of the parts has a name; parts behind it are not looked at. -/
def anyNamed (bench : Workbench) (name : Datum) : List Datum → Except Fault Bool
  | [] => .ok false
  | part :: rest => do
    if ← bench.agree (← bench.member part "name") name then return true
    else bench.anyNamed name rest

/-- Whether a key, or an item of a set, is among others.  No set is an item of another. -/
def hasKey (bench : Workbench) (key : Datum) (others : List Datum) : Except Fault Bool := do
  checkKey key
  anyAlike bench.alike key others

/-- Whether a container has an item: a text has its stretches, and a registry the names of its
resources. -/
def contains (bench : Workbench) (container item : Datum) : Except Fault Bool :=
  match container with
  | .tuple items => anyAlike bench.alike item items
  | .text value =>
    match item with
    | .text part => .ok (occursIn part.toList value.toList)
    | other => .error (.containedType "string" other.fullTypeName)
  | .bytes values =>
    match item with
    | .bytes part => .ok (occursIn part values)
    | other =>
      match other.integer? with
      | some n => if 0 ≤ n ∧ n < 256 then .ok (values.any (n == ·)) else .error .notByte
      | none => .error (.notBytes other.fullTypeName)
  | .object handle =>
    match handle.sort with
    | .list => anyAlike bench.alike item (bench.itemsAt handle)
    | .set =>
      if item.isObject .set then .ok false else bench.hasKey item (bench.itemsAt handle)
    | .table => bench.hasKey item ((bench.entriesAt handle).map fun entry ↦ .text entry.1)
    | .buffer => do return !(← bench.unreadLines handle).isEmpty
    | .registry =>
      match item, bench.stored? handle "contains" with
      | .text _, none => do bench.anyNamed item (← bench.items container)
      | .text _, some value => .error (.notCallable value.fullTypeName)
      | _, _ => .ok false
    | _ => .error (.notContainer handle.sort.typeName)
  | other => .error (.notContainer other.fullTypeName)

/-! ## Indices -/

/-- The least integer beyond a machine word with a sign. -/
def wordLimit : Int := 0x8000000000000000

/-- The item at an index, which counts from the end if it is negative. -/
def itemAt (family : String) (items : List Datum) (index : Int) : Except Fault Datum :=
  if index < -wordLimit ∨ wordLimit ≤ index then .error .indexTooLarge
  else
    let place := if index < 0 then index + items.length else index
    match (if place < 0 then none else items[place.toNat]?) with
    | some item => .ok item
    | none => .error (.noItem family)

/-- What a container has under a key or at an index; a table may have nothing there. -/
def lookUp (bench : Workbench) (container key : Datum) : Except Fault (Option Datum) :=
  let indexed (family : String) (misfit : Fault) : Except Fault (Option Datum) :=
    match key.integer? with
    | some index => do return some (← itemAt family (← bench.items container) index)
    | none => .error misfit
  match container with
  | .tuple _ => indexed "tuple" (.indexType "tuple" key.fullTypeName)
  | .text _ => indexed "string" (.textIndexType key.fullTypeName)
  | .bytes _ => indexed "" (.indexType "byte" key.fullTypeName)
  | .object { sort := .list, .. } => indexed "list" (.indexType "list" key.fullTypeName)
  | .object { sort := .table, index := index } => do
    checkKey key
    return key.text?.bind ((bench.entriesAt { sort := .table, index := index }).lookup ·)
  | other => .error (.notSubscriptable other.fullTypeName)

/-- The parts of a sequence from an index on. -/
def itemsFrom (bench : Workbench) (index : Nat) (datum : Datum) : Except Fault (List Datum) :=
  match datum with
  | .object { sort := .table, .. } => .error (.unfitKey "slice")
  | .object { sort := .list, .. } => do return (← bench.items datum).drop index
  | .object handle => .error (.notSubscriptable (Datum.object handle).fullTypeName)
  | .tuple items => .ok (items.drop index)
  | .text _ => do return (← bench.items datum).drop index
  | .bytes _ => do return (← bench.items datum).drop index
  | other => .error (.notSubscriptable other.fullTypeName)

end StateSketch.Workbench
