import StateSketch.Session.Basic

/-!
# Operators

What the operators `&` and `|` make of two data.  They join guards; on truth values, integers, sets
and tables they have their usual meaning, and anything else is refused.
-/

namespace StateSketch

/-- The bits that two integers have in common.  A negative integer has a one at every place from
some place on. -/
def commonBits : Int → Int → Int
  | .ofNat m, .ofNat n => ((m &&& n : Nat) : Int)
  | .ofNat m, .negSucc n => ((m - (m &&& n) : Nat) : Int)
  | .negSucc m, .ofNat n => ((n - (n &&& m) : Nat) : Int)
  | .negSucc m, .negSucc n => .negSucc (m ||| n)

/-- The bits that at least one of two integers has. -/
def joinedBits : Int → Int → Int
  | .ofNat m, .ofNat n => ((m ||| n : Nat) : Int)
  | .ofNat m, .negSucc n => .negSucc (n - (n &&& m))
  | .negSucc m, .ofNat n => .negSucc (m - (m &&& n))
  | .negSucc m, .negSucc n => .negSucc (m &&& n)

/-- The entries of two tables; a key of both keeps its place in the first and its value in the
second. -/
def mergeEntries (first second : List (String × Datum)) : List (String × Datum) :=
  second.foldl (fun entries (key, value) ↦ setEntry key value entries) first

namespace Session

/-- Two objects of one sort. -/
def pairOf? (sort : ObjectSort) : Datum → Datum → Option (Handle × Handle)
  | .object left, .object right =>
    if left.sort = sort ∧ right.sort = sort then some (left, right) else none
  | _, _ => none

/-- An operator on two integers. -/
def onIntegers (sign : String) (operator : Int → Int → Int) (left right : Datum) :
    Session Datum :=
  match left.integer?, right.integer? with
  | some m, some n => return .integer (operator m n)
  | _, _ => throw (.operands sign left.fullTypeName right.fullTypeName)

/-- The operator `&`. -/
def conjoin (left right : Datum) : Session Datum :=
  match left, right with
  | .guard left, .guard right => return .guard (.both left right)
  | .flag left, .flag right => return .flag (left && right)
  | _, _ =>
    match pairOf? .set left right with
    | some (left, right) => do
      let bench ← get
      newSet (← check ((bench.itemsAt left).filterM fun item ↦
        Workbench.anyAlike bench.alike item (bench.itemsAt right)))
    | none => onIntegers "&" commonBits left right

/-- The operator `|`. -/
def disjoin (left right : Datum) : Session Datum := do
  let bench ← get
  match left, right with
  | .guard left, .guard right => return .guard (.either left right)
  | .flag left, .flag right => return .flag (left || right)
  | _, _ =>
    match pairOf? .set left right, pairOf? .table left right with
    | some (left, right), _ => newSet (bench.itemsAt left ++ bench.itemsAt right)
    | _, some (left, right) =>
      newTable (mergeEntries (bench.entriesAt left) (bench.entriesAt right))
    | none, none => onIntegers "|" joinedBits left right

end Session

end StateSketch
