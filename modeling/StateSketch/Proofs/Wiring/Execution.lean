import StateSketch.Proofs.Wiring.Grammar
import StateSketch.Level

/-!
# Running a function of a sketch

A function runs on a board whose readings and clock stand still.  What it does is the row of its
writes, of its assignments to variables of the sketch, and of its calls.  Integers have no bounds,
and functions that are called do not run themselves.
-/

namespace StateSketch

/-- The number that stands for a level. -/
def Level.value : Level → Int
  | .low => 0
  | .high => 1

/-- The level that a pin is driven to by a number. -/
def Level.ofValue (value : Int) : Level :=
  if value = 0 then .low else .high

@[simp]
theorem Level.ofValue_value (level : Level) : ofValue level.value = level := by
  cases level <;> rfl

namespace Wiring

structure Board where
  reading : Int → Level
  /-- Milliseconds since the board was started. -/
  clock : Int

inductive Event where
  | wrote (port : Int) (level : Level)
  | stored (name : String) (value : Int)
  | called (function : String) (arguments : List Int)
deriving DecidableEq

/-- Puts a value in the place of the first one with the same name. -/
def update (name : String) (value : Int) : List (String × Int) → Option (List (String × Int))
  | [] => none
  | entry :: rest =>
    if entry.1 = name then some ((name, value) :: rest)
    else (update name value rest).map (entry :: ·)

structure Memory where
  locals : List (String × Int) := []
  globals : List (String × Int)
  constants : List (String × Int)

namespace Memory

/-- A name means the variable that was declared last, those of the function before those of the
sketch, or else a constant. -/
def get? (memory : Memory) (name : String) : Option Int :=
  (memory.locals ++ memory.globals ++ memory.constants).lookup name

def declare (memory : Memory) (name : String) (value : Int) : Memory :=
  { memory with locals := (name, value) :: memory.locals }

/-- Assigns to a variable.  Only variables of the sketch outlast the function. -/
def assign (memory : Memory) (name : String) (value : Int) : Option (Memory × List Event) :=
  match update name value memory.locals with
  | some locals => some ({ memory with locals := locals }, [])
  | none => do
    let globals ← update name value memory.globals
    some ({ memory with globals := globals }, [.stored name value])

/-- The memory outside of the braces in which `inner` was left. -/
def leave (memory inner : Memory) : Memory :=
  { inner with locals := inner.locals.drop (inner.locals.length - memory.locals.length) }

end Memory

def Atom.eval (memory : Memory) : Atom → Option Int
  | .number value => some value
  | .name text => memory.get? text

def Operator.apply : Operator → Int → Int → Int
  | .or, left, right => (decide (left ≠ 0) || decide (right ≠ 0)).toInt
  | .and, left, right => (decide (left ≠ 0) && decide (right ≠ 0)).toInt
  | .equal, left, right => (decide (left = right)).toInt
  | .less, left, right => (decide (left < right)).toInt
  | .greater, left, right => (decide (left > right)).toInt
  | .minus, left, right => left - right

/-- What a function of the board gives. -/
def Board.query (board : Board) (function : String) : List Int → Option Int
  | [] => if function = "millis" then some board.clock else none
  | [port] => if function = "digitalRead" then some (board.reading port).value else none
  | _ => none

/-- Operands have no effects, so it does not matter whether the second one is always evaluated. -/
def Expression.eval (board : Board) (memory : Memory) : Expression → Option Int
  | .atom value => value.eval memory
  | .call function arguments => do
    let values ← arguments.mapM (·.eval memory)
    board.query function values
  | .binary sign left right => do
    let first ← left.eval board memory
    let second ← right.eval board memory
    some (sign.apply first second)

theorem Expression.eval_binary {board : Board} {memory : Memory} {left right : Expression}
    {first second : Int} (hleft : left.eval board memory = some first)
    (hright : right.eval board memory = some second) (sign : Operator) :
    (binary sign left right).eval board memory = some (sign.apply first second) := by
  rw [eval, hleft, hright]
  rfl

theorem Operator.apply_and (left right : Bool) :
    Operator.and.apply left.toInt right.toInt = (left && right).toInt := by
  cases left <;> cases right <;> rfl

theorem Operator.apply_or (left right : Bool) :
    Operator.or.apply left.toInt right.toInt = (left || right).toInt := by
  cases left <;> cases right <;> rfl

theorem Operator.apply_equal_value (left right : Level) :
    Operator.equal.apply left.value right.value = (left == right).toInt := by
  cases left <;> cases right <;> rfl

def BaseType.convert : BaseType → Int → Int
  | .boolean, value => (decide (value ≠ 0)).toInt
  | _, value => value

theorem BaseType.convert_boolean (value : Bool) :
    BaseType.boolean.convert value.toInt = value.toInt := by
  cases value <;> rfl

/-- What a call that stands alone does. -/
def callEvent (function : String) (values : List Int) : Option Event :=
  if function = "digitalWrite" then
    match values with
    | [port, level] => some (.wrote port (.ofValue level))
    | _ => none
  else some (.called function values)

/-- The memory and the events of a row of statements.  The only loop of a sketch is in a function
that is called and does not run. -/
def Block.run (board : Board) : Memory → Block → Option (Memory × List Event)
  | memory, .done => some (memory, [])
  | memory, .call function arguments next => do
    let values ← arguments.mapM (·.eval memory)
    let event ← callEvent function values
    let (after, events) ← next.run board memory
    some (after, event :: events)
  | memory, .assign name value next => do
    let number ← value.eval board memory
    let (memory, stored) ← memory.assign name number
    let (after, events) ← next.run board memory
    some (after, stored ++ events)
  | memory, .declare type name value next => do
    let number ← value.eval board memory
    next.run board (memory.declare name (type.convert number))
  | memory, .branch test yes no next => do
    let chosen ← test.eval board memory
    let (inner, events) ← if chosen ≠ 0 then yes.run board memory else no.run board memory
    let (after, others) ← next.run board (memory.leave inner)
    some (after, events ++ others)
  | _, .loop _ _ _ _ _ => none

theorem Block.run_branch {board : Board} {memory inner : Memory} {test : Expression}
    {yes no : Block} {events : List Event} {value : Bool}
    (htest : test.eval board memory = some value.toInt)
    (hchosen : (if value then yes else no).run board memory = some (inner, events)) :
    (branch test yes no .done).run board memory = some (memory.leave inner, events) := by
  rw [run, htest]
  cases value with
  | true =>
    rw [if_pos rfl] at hchosen
    simp [hchosen, run]
  | false =>
    rw [if_neg (by decide)] at hchosen
    simp [hchosen, run]

/-! ## Sketches -/

def Item.global? : Item → Option (String × Int)
  | .variable _ name value => some (name, value)
  | _ => none

def Item.constant? : Item → Option (String × Int)
  | .define name value => some (name, value)
  | _ => none

/-- The statements of a function without parameters. -/
def Item.body? (function : String) : Item → Option Block
  | .function name [] body => if name = function then some body else none
  | _ => none

/-- The constants that every sketch can use. -/
def boardConstants : List (String × Int) :=
  [("HIGH", 1), ("LOW", 0), ("INPUT", 0), ("OUTPUT", 1)]

/-- What a function of a sketch does if it finds the given value in `time`. -/
def perform (items : List Item) (board : Board) (time : Int) (function : String) :
    Option (List Event) := do
  let body ← items.findSome? (·.body? function)
  let globals ← update "time" time (items.filterMap (·.global?))
  let (_, events) ← body.run board {
    globals := globals
    constants := items.filterMap (·.constant?) ++ boardConstants }
  some events

end Wiring

end StateSketch
