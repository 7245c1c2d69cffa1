import StateSketch.Terminal.Parameter.Number

/-!
# Expressions in tag parameters

The parameters of a tag are read as an expression, and the expression has to be a plain value: a
number, a quoted text, a constant, or a tuple, a set or a table of plain values.
-/

namespace StateSketch.Terminal.Parameter

inductive Expression where
  | number (numeral : Numeral)
  /-- A quoted text or a named constant. -/
  | constant (title : String)
  | name (letters : String)
  | tuple (items : List Expression)
  | set (items : List Expression)
  /-- Keys and values; an entry without a key stands for the entries of another table. -/
  | record (entries : List (Option Expression × Expression))
  | signed (operand : Expression)
  | sum (left right : Expression)
  | emptySet
  | starred (operand : Expression)
  | member
  /-- A comparison with what stands left of its first sign; `within` says whether that sign asks for
  a member of a collection. -/
  | comparison (within : Bool) (left : Expression)
  /-- How many arguments of a call have no name, and whether a table gives more of them. -/
  | arguments (unnamed : Nat) (spread : Bool)
  /-- Anything else. -/
  | other (title : String)

namespace Expression

/-- What an expression is called when something is to be assigned to it. -/
def title : Expression → String
  | number _ => "literal"
  | constant title => title
  | name _ => "name"
  | tuple _ => "tuple"
  | set _ => "set display"
  | record _ => "dict literal"
  | signed _ => "expression"
  | sum _ _ => "expression"
  | emptySet => "function call"
  | starred _ => "starred"
  | member => "attribute"
  | comparison _ _ => "comparison"
  | arguments _ _ => "function call"
  | other title => title

/-- Two operands with a sign between them. -/
def joined (sign : String) (left right : Expression) : Expression :=
  if sign = "+" ∨ sign = "-" then sum left right else other "expression"

/-- A call, with its arguments unless there are none. -/
def call (callee : Expression) (given : Option Expression) : Expression :=
  match callee, given with
  | name "set", none => emptySet
  | _, _ => other "function call"

/-- The words that were once statements. -/
def isLegacy : Expression → Bool
  | name letters => letters = "print" || letters = "exec"
  | _ => false

mutual

/-- The first part of what a loop runs over that nothing can be assigned to. -/
def unassignable? : Expression → Option Expression
  | tuple items => unassignableIn? items
  | starred operand => operand.unassignable?
  | comparison within left => if within then left.unassignable? else none
  | name _ => none
  | member => none
  | given => some given

def unassignableIn? : List Expression → Option Expression
  | [] => none
  | item :: rest => item.unassignable? <|> unassignableIn? rest

end

/-! ## Plain values -/

mutual

/-- The type of the first part of a value that cannot be the key of a table. -/
def unfitKey? : Expression → Option String
  | tuple items => unfitKeyIn? items
  | set _ => some "set"
  | emptySet => some "set"
  | record _ => some "dict"
  | _ => none

def unfitKeyIn? : List Expression → Option String
  | [] => none
  | item :: rest => item.unfitKey? <|> unfitKeyIn? rest

end

def checkKey (key : Expression) : Except String Unit :=
  match key.unfitKey? with
  | some given => .error s!"unhashable type: '{given}'"
  | none => .ok ()

def malformed : String := "malformed node or string"

/-- The number that an expression is, with or without a sign. -/
def numeral? : Expression → Option Numeral
  | number numeral => some numeral
  | signed (number numeral) => some numeral
  | _ => none

/-- Makes sure that a sum is a complex number. -/
def checkSum (left right : Expression) : Except String Unit :=
  match left.numeral?, right with
  | some real, number imaginary =>
    if real.imaginary || !imaginary.imaginary then .error malformed
    else if real.isHuge then .error "int too large to convert to float"
    else .ok ()
  | _, _ => .error malformed

mutual

/-- Makes sure that an expression is a plain value. -/
def check : Expression → Except String Unit
  | number _ => .ok ()
  | constant _ => .ok ()
  | emptySet => .ok ()
  | tuple items => checkAll items
  | set items => checkKeys items
  | record entries => checkEntries entries
  | signed (number _) => .ok ()
  | sum left right => checkSum left right
  | _ => .error malformed

def checkAll : List Expression → Except String Unit
  | [] => .ok ()
  | item :: rest => do
    item.check
    checkAll rest

def checkKeys : List Expression → Except String Unit
  | [] => .ok ()
  | item :: rest => do
    item.check
    checkKey item
    checkKeys rest

def checkEntry : Option Expression × Expression → Except String Unit
  | (none, _) => .error (malformed ++ ": None")
  | (some key, value) => do
    key.check
    value.check
    checkKey key

def checkEntries : List (Option Expression × Expression) → Except String Unit
  | [] => .ok ()
  | entry :: rest => do
    checkEntry entry
    checkEntries rest

end

end Expression

end StateSketch.Terminal.Parameter
