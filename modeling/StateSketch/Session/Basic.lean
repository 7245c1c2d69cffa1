import StateSketch.Workbench.Collection

/-!
# Sessions

A session is a row of calls on a workbench.  A call that is refused keeps what was done before the
fault.
-/

namespace StateSketch

/-- Calls on a workbench. -/
abbrev Session (α : Type) := ExceptT Fault (StateM Workbench) α

namespace Session

def check {α : Type} (result : Except Fault α) : Session α :=
  ExceptT.mk (pure result)

/-- What the workbench shows at the moment. -/
def look {α : Type} (view : Workbench → Except Fault α) : Session α := do
  check (view (← get))

def log (entries : List LogEntry) : Session Unit :=
  modify fun bench ↦ { bench with journal := bench.journal ++ entries }

/-- Refuses a datum that lacks a part which is asked for. -/
def lacks {α : Type} (datum : Datum) (part : String) : Session α :=
  throw (.missingPart datum.fullTypeName part)

/-! ## Data -/

def quoted (datum : Datum) : Session String :=
  look (·.quoted datum)

def shown (datum : Datum) : Session String :=
  look (·.shown datum)

/-- The parts of a collection. -/
def items (datum : Datum) : Session (List Datum) :=
  look (·.items datum)

/-- The number of parts of a collection. -/
def size (datum : Datum) : Session Nat :=
  look (·.size datum)

/-- Whether a datum counts as a yes at present. -/
def isTrue (datum : Datum) : Session Bool :=
  look (·.isTrue datum)

def contains (container item : Datum) : Session Bool :=
  look (·.contains container item)

def agree (a b : Datum) : Session Bool :=
  look (·.agree a b)

def exceeds (a b : Datum) : Session Bool :=
  look (·.exceeds a b)

def member (target : Datum) (name : String) : Session Datum :=
  look (·.member target name)

/-- A member of a member. -/
def memberOf (target : Datum) (first second : String) : Session Datum := do
  member (← member target first) second

/-- The first of two data that counts as a yes, or else the second. -/
def orElse (first : Datum) (second : Session Datum) : Session Datum := do
  if ← isTrue first then return first else second

/-! ## Objects -/

def create (sort : ObjectSort) (content : Content) (members : List (String × Datum)) :
    Session Datum := do
  let bench ← get
  let thing : Thing := { sort := sort, content := content, members := members }
  set { bench with things := bench.things.push thing }
  return .object { sort := sort, index := bench.things.size }

def change (handle : Handle) (update : Thing → Thing) : Session Unit :=
  modify fun bench ↦ { bench with things := bench.things.modify handle.index update }

def setContent (handle : Handle) (content : Content) : Session Unit :=
  change handle ({ · with content := content })

def setMember (handle : Handle) (name : String) (value : Datum) : Session Unit :=
  change handle fun thing ↦ { thing with members := setEntry name value thing.members }

def newList (items : List Datum) : Session Datum :=
  create .list (.items items) []

/-- A new list of texts. -/
def newTexts (texts : List String) : Session Datum :=
  newList (Datum.ofTexts texts)

/-- A new set; each of its items has to be fit to be a key. -/
def newSet (items : List Datum) : Session Datum := do
  items.forM fun item ↦ check (Workbench.checkKey item)
  create .set (.items (← look (·.distinct items))) []

def newTable (entries : List (String × Datum)) : Session Datum :=
  create .table (.entries entries) []

def newBuffer : Session Datum :=
  create .buffer (.written (some "")) []

def newFunction (result : Datum) : Session Datum :=
  create .function (.result result) []

/-- What comes of a function; anything else comes to itself. -/
def resultOf (datum : Datum) : Session Datum := do
  match datum with
  | .object handle =>
    match (← get).content handle with
    | .result value => return value
    | _ => return datum
  | _ => return datum

/-- What is not a number is told from others of its kind by a mark. -/
def newReal (value : Binary64) : Session Datum := do
  let bench ← get
  set { bench with marks := bench.marks + 1 }
  return .real (value.marked bench.marks)

/-- A datum in the place of an ability, which anyone can put there, cannot do what is asked for. -/
def checkAbility (target : Datum) (ability : String) : Session Unit := do
  if let some value := (← get).member? target ability then throw (.notCallable value.fullTypeName)

/-- Refuses a datum that is asked to do what it cannot do. -/
def cannot {α : Type} (target : Datum) (ability : String) : Session α := do
  checkAbility target ability
  lacks target ability

/-- An object of a sort that is asked to do what such objects can do. -/
def able (target : Datum) (sort : ObjectSort) (ability : String) : Session Handle := do
  checkAbility target ability
  match target with
  | .object handle => if handle.sort = sort then return handle else lacks target ability
  | _ => lacks target ability

/-! ## Lists and sets -/

/-- A list that can be appended to. -/
def appendable (target : Datum) : Session Handle :=
  able target .list "append"

def push (handle : Handle) (item : Datum) : Session Unit := do
  setContent handle (.items ((← get).itemsAt handle ++ [item]))

/-- Appends to a list; anything else cannot be appended to. -/
def append (target item : Datum) : Session Unit := do
  push (← appendable target) item

/-- Adds an item to a set, unless it has it. -/
def addItem (target item : Datum) : Session Unit := do
  let handle ← able target .set "add"
  let items := (← get).itemsAt handle
  unless ← look (·.hasKey item items) do push handle item

/-- Removes everything from a list, a set or a table. -/
def clear (target : Datum) : Session Unit :=
  match target with
  | .object handle =>
    match handle.sort with
    | .list => setContent handle (.items [])
    | .set => setContent handle (.items [])
    | .table => setContent handle (.entries [])
    | _ => cannot target "clear"
  | _ => cannot target "clear"

/-- Puts a value into a table under a key. -/
def setItem (target : Datum) (key : String) (value : Datum) : Session Unit :=
  match target with
  | .object handle =>
    match handle.sort with
    | .table => do
      setContent handle (.entries (setEntry key value ((← get).entriesAt handle)))
    | .list => throw (.indexType "list" "str")
    | _ => throw (.notAssignable target.fullTypeName)
  | _ => throw (.notAssignable target.fullTypeName)

/-! ## Text buffers -/

/-- What a buffer holds; a closed one does not tell. -/
def bufferText (handle : Handle) : Session String := do
  match (← get).textAt? handle with
  | some text => return text
  | none => throw .bufferClosed

/-- Writes a text to a buffer, if one is given. -/
def write (out : Datum) (text : String) : Session Unit := do
  unless out.isNothing do
    let handle ← able out .buffer "write"
    setContent handle (.written (some ((← bufferText handle) ++ text)))

/-! ## Changes -/

/-- What objects work out by themselves and do not let anyone change. -/
def derivedParts : ObjectSort → List String
  | .program => ["initial_state", "fault_states", "has_fault_states"]
  | .builder => ["program"]
  | .app => ["builder", "program"]
  | .workpiece => ["resources", "states", "uses_fault_pin"]
  | _ => []

/-- Puts something in the place of a member; parts of programs and reports never change. -/
def assign (target : Datum) (name : String) (value : Datum) : Session Unit :=
  match target with
  | .object handle =>
    match handle.sort with
    | .list => lacks target name
    | .set => lacks target name
    | .table => lacks target name
    | sort =>
      if name ∈ derivedParts sort then throw (.derivedPart sort.typeName name)
      else setMember handle name value
  | .kind constant =>
    if name == "name" || name == "value" then throw (.constantPart name)
    else
      modify fun bench ↦ { bench with attached := ((constant, name), value) :: bench.attached }
  | .guard _ => throw (.immutableField name)
  | .part _ _ => throw (.immutableField name)
  | other => lacks other name

end Session

end StateSketch
