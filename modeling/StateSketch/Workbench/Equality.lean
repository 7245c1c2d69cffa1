import StateSketch.Workbench.Basic
import StateSketch.Workbench.Text

/-!
# Equality and order of data

Numbers are equal if their values are, whatever their types; sets and tables are compared without
regard to order.  Parts are compared by the fields that tell them apart, programs and workpieces by
what they hold at the moment, and other objects are equal only to themselves.
-/

namespace StateSketch

/-- Whether two data are one thing that is not a number, which does not equal itself. -/
def Datum.isSameMark : Datum → Datum → Bool
  | .real a, .real b => a == b
  | _, _ => false

namespace Workbench

/-- What programs and workpieces hold, by which they are compared. -/
def comparedParts (bench : Workbench) (handle : Handle) : List Datum :=
  handle.sort.fieldNames.map fun name ↦ (bench.stored? handle name).getD .nothing

/-- Whether lists have as many items, and the items in the same places are equal. -/
def allAlike (alike : Datum → Datum → Except Fault Bool) :
    List Datum → List Datum → Except Fault Bool
  | [], [] => .ok true
  | a :: as, b :: bs => do if ← alike a b then allAlike alike as bs else return false
  | _, _ => .ok false

/-- Whether an item equals one of a list. -/
def anyAlike (alike : Datum → Datum → Except Fault Bool) (item : Datum) :
    List Datum → Except Fault Bool
  | [] => .ok false
  | other :: rest => do if ← alike other item then return true else anyAlike alike item rest

/-- Whether every item of the first list equals one of the second. -/
def allWithin (alike : Datum → Datum → Except Fault Bool) :
    List Datum → List Datum → Except Fault Bool
  | [], _ => .ok true
  | a :: as, bs => do if ← anyAlike alike a bs then allWithin alike as bs else return false

/-- Whether every entry of the first table has an equal one in the second. -/
def entriesWithin (alike : Datum → Datum → Except Fault Bool) :
    List (String × Datum) → List (String × Datum) → Except Fault Bool
  | [], _ => .ok true
  | (key, value) :: rest, entries =>
    match entries.lookup key with
    | none => .ok false
    | some other => do
      if ← alike value other then entriesWithin alike rest entries else return false

/-- Equality of data that are looked into to a depth. -/
def agreeTo (bench : Workbench) : Nat → Datum → Datum → Except Fault Bool
  | 0, _, _ => .error .tooDeep
  | depth + 1, first, second =>
    let alike (a b : Datum) : Except Fault Bool :=
      if a.isSameMark b then .ok true else bench.agreeTo depth a b
    match first, second with
    | .nothing, .nothing => .ok true
    | .text a, .text b => .ok (a == b)
    | .bytes a, .bytes b => .ok (a == b)
    | .kind a, .kind b => .ok (a == b)
    | .guard a, .guard b => .ok (a == b)
    | .real a, .real b => .ok (a.equals b)
    | .tuple a, .tuple b => allAlike alike a b
    | .part sort a, .part other b =>
      if sort = other then
        allAlike alike (a.take sort.comparedFields) (b.take sort.comparedFields)
      else .ok false
    | .object a, .object b =>
      if a = b then .ok true
      else if a.sort ≠ b.sort then .ok false
      else
        match a.sort with
        | .list => allAlike alike (bench.itemsAt a) (bench.itemsAt b)
        | .set =>
          let items := bench.itemsAt a
          let others := bench.itemsAt b
          if items.length = others.length then allWithin alike items others else .ok false
        | .table =>
          let entries := bench.entriesAt a
          let others := bench.entriesAt b
          if entries.length = others.length then entriesWithin alike entries others
          else .ok false
        | .program => allAlike alike (bench.comparedParts a) (bench.comparedParts b)
        | .workpiece => allAlike alike (bench.comparedParts a) (bench.comparedParts b)
        | _ => .ok false
    | .flag a, b => .ok (b.isNumber (if a then 1 else 0))
    | .integer a, b => .ok (b.isNumber a)
    | .real a, b => .ok (b.integer?.any a.isInteger)
    | _, _ => .ok false

/-- Equality of data. -/
def agree (bench : Workbench) (a b : Datum) : Except Fault Bool :=
  bench.agreeTo depthLimit a b

/-- Equality of the items of collections, among which a thing equals itself. -/
def alike (bench : Workbench) (a b : Datum) : Except Fault Bool :=
  if a.isSameMark b then .ok true else bench.agree a b

/-- The items without those that equal an earlier one. -/
def distinct (bench : Workbench) (items : List Datum) : Except Fault (List Datum) :=
  items.foldlM (fun kept item ↦ do
    return if ← anyAlike bench.alike item kept then kept else kept ++ [item]) []

/-! ## Keys -/

/-- A datum that can be a key of a table or an item of a set: nothing in it is compared by what it
holds at the moment. -/
def checkKeyTo : Nat → Datum → Except Fault Unit
  | 0, _ => .error .tooDeep
  | depth + 1, datum =>
    match datum with
    | .tuple items => items.forM (checkKeyTo depth)
    | .part sort fields => (fields.take sort.comparedFields).forM (checkKeyTo depth)
    | .object handle =>
      match handle.sort with
      | .list => .error (.unfitKey "list")
      | .set => .error (.unfitKey "set")
      | .table => .error (.unfitKey "dict")
      | .program => .error (.unfitKey "Program")
      | .workpiece => .error (.unfitKey "CodegenContext")
      | _ => .ok ()
    | _ => .ok ()

def checkKey (datum : Datum) : Except Fault Unit :=
  checkKeyTo depthLimit datum

/-! ## Order

Numbers are compared by value, texts and byte strings by their characters, lists and tuples by the
first items that differ, and sets by what they hold.  Anything else cannot be compared. -/

/-- Whether one number is above another. -/
def numberAbove (a b : Datum) : Except Fault Bool :=
  match a.fraction?, b.fraction? with
  | some m, some n => .ok (Binary64.fractionAbove m n)
  | m, n =>
    if (m.isSome || a.isReal) && (n.isSome || b.isReal) then .ok false
    else .error (.incomparable a.fullTypeName b.fullTypeName)

/-- The first items that are not equal decide, and else the lengths. -/
def anyAbove (alike above : Datum → Datum → Except Fault Bool) :
    List Datum → List Datum → Except Fault Bool
  | [], _ => .ok false
  | _ :: _, [] => .ok true
  | a :: as, b :: bs => do
    if ← alike a b then anyAbove alike above as bs else above a b

/-- Whether a datum comes after another, looked into to a depth. -/
def exceedsTo (bench : Workbench) : Nat → Datum → Datum → Except Fault Bool
  | 0, _, _ => .error .tooDeep
  | depth + 1, first, second =>
    let above := bench.exceedsTo depth
    match first, second with
    | .text a, .text b => .ok (decide (b < a))
    | .bytes a, .bytes b => .ok (decide (b < a))
    | .tuple a, .tuple b => anyAbove bench.alike above a b
    | .object a, .object b =>
      match a.sort, b.sort with
      | .list, .list => anyAbove bench.alike above (bench.itemsAt a) (bench.itemsAt b)
      | .set, .set =>
        let items := bench.itemsAt a
        let others := bench.itemsAt b
        if others.length < items.length then allWithin bench.alike others items else .ok false
      | _, _ => .error (.incomparable first.fullTypeName second.fullTypeName)
    | a, b => numberAbove a b

/-- Whether a datum comes after another. -/
def exceeds (bench : Workbench) (a b : Datum) : Except Fault Bool :=
  bench.exceedsTo depthLimit a b

/-- The items of a set in the order in which they are shown: texts by their characters, numbers by
their values. -/
def sorted (items : List Datum) : List Datum :=
  items.mergeSort fun a b ↦
    match a, b with
    | .text a, .text b => decide (a ≤ b)
    | a, b =>
      match a.fraction?, b.fraction? with
      | some m, some n => !Binary64.fractionAbove m n
      | _, _ => true

end Workbench

end StateSketch
