import StateSketch.Proofs.SymbolTable
import StateSketch.Proofs.Validation
import StateSketch.Sketch.Emission

/-!
# The sketch of a program without errors

Where every name has a symbol, emission cannot fail for the lack of one.  What remains is the width
of numbers: a sketch is refused exactly if one of the numbers in it has too many digits, and else it
is the one that is put together here part by part, without faults on the way.
-/

namespace StateSketch

/-! ## Computations that can only fail on a number -/

namespace Fault

/-- A value, unless a number that has to be shown has too many digits. -/
def unlessWide {α : Type} (wide : Bool) (value : α) : Except Fault α :=
  if wide then .error .numeralTooWide else .ok value

variable {α β : Type}

@[simp]
theorem unlessWide_false (value : α) : unlessWide false value = .ok value :=
  rfl

@[simp]
theorem unlessWide_true (value : α) : unlessWide true value = .error .numeralTooWide :=
  rfl

theorem checkWidth_eq (number : Int) :
    checkWidth number = unlessWide (Text.isTooWide number) () :=
  rfl

theorem bind_unlessWide (wide : Bool) (value : α) {next : α → Except Fault β} {more : Bool}
    {result : β} (hnext : next value = unlessWide more result) :
    (unlessWide wide value >>= next) = unlessWide (wide || more) result := by
  cases wide
  · exact hnext
  · rfl

theorem mapM_unlessWide {items : List α} {step : α → Except Fault β} {wide : α → Bool}
    {value : α → β} (hstep : ∀ item ∈ items, step item = unlessWide (wide item) (value item)) :
    items.mapM step = unlessWide (items.any wide) (items.map value) := by
  induction items with
  | nil => rfl
  | cons item rest ih =>
    have hrest := ih fun other hother ↦ hstep other (List.mem_cons_of_mem _ hother)
    rw [List.mapM_cons, hstep item List.mem_cons_self, hrest, List.any_cons, List.map_cons]
    refine bind_unlessWide _ _ ?_
    cases rest.any wide <;> rfl

end Fault

/-! ## Parts with symbols -/

/-- The guard with other names for its sensors. -/
def Guard.rename (symbol : String → String) : Guard → Guard
  | .reads sensor level => .reads (symbol sensor) level
  | .both left right => .both (left.rename symbol) (right.rename symbol)
  | .either left right => .either (left.rename symbol) (right.rename symbol)

namespace SymbolTable

/-- The symbol of a resource, given that it has one. -/
def pinName (table : SymbolTable) (name : String) : String :=
  (table.resources.lookup name).getD ""

/-- The symbol of a state, given that it has one. -/
def functionName (table : SymbolTable) (name : String) : String :=
  (table.states.lookup name).getD ""

def testOf (table : SymbolTable) : Trigger → Test
  | .guard condition => .settled (condition.rename table.pinName)
  | .delay milliseconds => .elapsed milliseconds

def writeOf (table : SymbolTable) (action : Action) : Step :=
  .write (table.pinName action.target) action.level

def branchOf (table : SymbolTable) (transition : Transition) : Branch where
  test := table.testOf transition.trigger
  body := [.restartClock, .call (table.functionName transition.target)]

def sampleOf (state : State) : List Statement :=
  if state.transitions.any (·.trigger.isGuard) then [.step .sampleGuard] else []

def dispatchOf (table : SymbolTable) (state : State) : List Statement :=
  match state.transitions with
  | [] => [.step (.call (table.functionName state.name))]
  | first :: rest =>
    sampleOf state ++ [.choose (table.branchOf first) (rest.map table.branchOf)
      [.call (table.functionName state.name)]]

def functionOf (table : SymbolTable) (state : State) : Function where
  name := table.functionName state.name
  body :=
    match state.body with
    | .fault blinks => [.step (.blink blinks), .step (.call (table.functionName state.name))]
    | .normal actions _ => (actions.map table.writeOf).map .step ++ table.dispatchOf state

def declarationOf (table : SymbolTable) (resource : Resource) : PinDeclaration where
  pin := table.pinName resource.name
  port := resource.port

def configurationOf (table : SymbolTable) (resource : Resource) : Step :=
  .configure (table.pinName resource.name) resource.pinMode

end SymbolTable

namespace Program

def table (program : Program) : SymbolTable :=
  SymbolTable.ofProgram program

/-- The sketch of a program, given that all its names have symbols. -/
def sketchOf (program : Program) (debounce : Nat) : Sketch where
  title := program.name
  debounce := debounce
  faultPin := program.faultPin
  pins := program.registry.resources.map program.table.declarationOf
  setup := (if program.hasFaultStates then
      [.configure faultPinName .output, .write faultPinName .low]
    else []) ++ program.registry.resources.map program.table.configurationOf
  functions := program.states.map program.table.functionOf
  blinks := program.hasFaultStates
  entry := program.table.functionName (program.initial.getD "")

end Program

/-! ## Emission where every name has a symbol -/

def Trigger.isWide : Trigger → Bool
  | .guard _ => false
  | .delay milliseconds => Text.isTooWide milliseconds

/-- Whether a number in the state has too many digits. -/
def State.isWide (state : State) : Bool :=
  match state.body with
  | .fault blinks => Text.isTooWide blinks
  | .normal _ transitions => transitions.any (·.trigger.isWide)

namespace SymbolTable

variable {table : SymbolTable}

/-- All names in a state have symbols, its own name included. -/
structure Covers (table : SymbolTable) (state : State) : Prop where
  self : (table.states.lookup state.name).isSome = true
  actions : ∀ action ∈ state.actions, (table.resources.lookup action.target).isSome = true
  sensors : ∀ transition ∈ state.transitions, ∀ sensor ∈ transition.trigger.sensors,
    (table.resources.lookup sensor).isSome = true
  targets : ∀ transition ∈ state.transitions,
    (table.states.lookup transition.target).isSome = true

theorem pin_eq_ok {name : String} (hname : (table.resources.lookup name).isSome = true) :
    table.pin name = .ok (table.pinName name) := by
  obtain ⟨symbol, hsymbol⟩ := Option.isSome_iff_exists.1 hname
  simp [pin, pinName, hsymbol]

theorem function_eq_ok {name : String} (hname : (table.states.lookup name).isSome = true) :
    table.function name = .ok (table.functionName name) := by
  obtain ⟨symbol, hsymbol⟩ := Option.isSome_iff_exists.1 hname
  simp [function, functionName, hsymbol]

theorem guard_eq_ok {condition : Guard}
    (hsensors : ∀ sensor ∈ condition.sensors, (table.resources.lookup sensor).isSome = true) :
    table.guard condition = .ok (condition.rename table.pinName) := by
  induction condition with
  | reads sensor level =>
    rw [guard, pin_eq_ok (hsensors sensor (by simp [Guard.sensors]))]
    rfl
  | both left right ihleft ihright =>
    rw [guard, ihleft fun sensor h ↦ hsensors sensor (by simp [Guard.sensors, h]),
      ihright fun sensor h ↦ hsensors sensor (by simp [Guard.sensors, h])]
    rfl
  | either left right ihleft ihright =>
    rw [guard, ihleft fun sensor h ↦ hsensors sensor (by simp [Guard.sensors, h]),
      ihright fun sensor h ↦ hsensors sensor (by simp [Guard.sensors, h])]
    rfl

theorem test_eq {trigger : Trigger}
    (hsensors : ∀ sensor ∈ trigger.sensors, (table.resources.lookup sensor).isSome = true) :
    table.test trigger = Fault.unlessWide trigger.isWide (table.testOf trigger) := by
  cases trigger with
  | guard condition =>
    rw [test, guard_eq_ok hsensors]
    rfl
  | delay milliseconds =>
    rw [test, Fault.checkWidth_eq, Trigger.isWide]
    cases Text.isTooWide milliseconds <;> rfl

theorem branch_eq {transition : Transition}
    (hsensors : ∀ sensor ∈ transition.trigger.sensors,
      (table.resources.lookup sensor).isSome = true)
    (htarget : (table.states.lookup transition.target).isSome = true) :
    table.branch transition =
      Fault.unlessWide transition.trigger.isWide (table.branchOf transition) := by
  rw [branch, test_eq hsensors, function_eq_ok htarget]
  cases transition.trigger.isWide <;> rfl

theorem dispatch_eq {state : State} (hstate : table.Covers state) :
    table.dispatch state =
      Fault.unlessWide (state.transitions.any (·.trigger.isWide)) (table.dispatchOf state) := by
  have hbranches : state.transitions.mapM table.branch =
      Fault.unlessWide (state.transitions.any (·.trigger.isWide))
        (state.transitions.map table.branchOf) :=
    Fault.mapM_unlessWide fun edge hedge ↦
      branch_eq (hstate.sensors edge hedge) (hstate.targets edge hedge)
  rw [dispatch, function_eq_ok hstate.self, hbranches]
  cases state.transitions.any (·.trigger.isWide) with
  | true => rfl
  | false =>
    unfold dispatchOf
    cases htransitions : state.transitions with
    | nil => rfl
    | cons first rest =>
      simp only [Fault.unlessWide_false, List.map_cons, sampleOf, htransitions]
      rfl

theorem stateFunction_eq {state : State} (hstate : table.Covers state) :
    table.stateFunction state = Fault.unlessWide state.isWide (table.functionOf state) := by
  rw [stateFunction, function_eq_ok hstate.self]
  cases hbody : state.body with
  | fault blinks =>
    have hwide : state.isWide = Text.isTooWide blinks := by simp [State.isWide, hbody]
    dsimp only
    rw [Fault.checkWidth_eq, hwide, functionOf, hbody]
    cases Text.isTooWide blinks <;> rfl
  | normal actions transitions =>
    have hactions : state.actions = actions := by simp [State.actions, hbody]
    have htransitions : state.transitions = transitions := by simp [State.transitions, hbody]
    have hwrites : actions.mapM table.write =
        Fault.unlessWide (actions.any fun _ ↦ false) (actions.map table.writeOf) := by
      refine Fault.mapM_unlessWide fun action haction ↦ ?_
      rw [write, pin_eq_ok (hstate.actions action (hactions ▸ haction))]
      rfl
    have hwide : state.isWide = transitions.any (·.trigger.isWide) := by
      simp [State.isWide, hbody]
    dsimp only
    rw [dispatch_eq hstate, hwrites, hwide, htransitions, functionOf, hbody]
    have hnone : (actions.any fun _ ↦ false) = false := by simp
    rw [hnone]
    cases transitions.any (·.trigger.isWide) <;> rfl

theorem pinDeclaration_eq {resource : Resource}
    (hname : (table.resources.lookup resource.name).isSome = true) :
    table.pinDeclaration resource =
      Fault.unlessWide (Text.isTooWide resource.port) (table.declarationOf resource) := by
  rw [pinDeclaration, pin_eq_ok hname, Fault.checkWidth_eq]
  cases Text.isTooWide resource.port <;> rfl

theorem configure_eq {resource : Resource}
    (hname : (table.resources.lookup resource.name).isSome = true) :
    table.configure resource = .ok (table.configurationOf resource) := by
  rw [configure, pin_eq_ok hname]
  rfl

end SymbolTable

/-! ## The whole sketch -/

namespace Workpiece

@[simp]
theorem mem_helpers_markHelper (piece : Workpiece) (helper other : String) :
    other ∈ (piece.markHelper helper).helpers ↔ other ∈ piece.helpers ∨ other = helper := by
  unfold markHelper
  split
  · rename_i hmarked
    exact ⟨.inl, fun h ↦ h.elim id fun hother ↦ hother ▸ hmarked⟩
  · simp

/-- The workpiece with the helpers that a state calls for. -/
def afterState (piece : Workpiece) (state : State) : Workpiece :=
  if state.isFault then piece.markHelper blinkHelper else piece

@[simp]
theorem symbols_afterState (piece : Workpiece) (state : State) :
    (piece.afterState state).symbols = piece.symbols := by
  unfold afterState markHelper
  split
  · split <;> rfl
  · rfl

theorem stateFunction_eq {piece : Workpiece} {state : State}
    (hstate : piece.symbols.Covers state) :
    piece.stateFunction state =
      (Fault.unlessWide state.isWide (piece.symbols.functionOf state), piece.afterState state) := by
  simp only [stateFunction, SymbolTable.stateFunction_eq hstate, hstate.self, Bool.and_true,
    afterState]

/-- A state can call for a helper only; the rest of the workpiece stays as it is. -/
theorem stateFunction_frame (piece : Workpiece) (state : State) :
    ∃ helpers, (piece.stateFunction state).2 = { piece with helpers := helpers } := by
  unfold stateFunction markHelper
  dsimp only
  split
  · split
    · exact ⟨piece.helpers, rfl⟩
    · exact ⟨piece.helpers ++ [blinkHelper], rfl⟩
  · exact ⟨piece.helpers, rfl⟩

theorem stateFunctions_frame (piece : Workpiece) (states : List State) :
    ∃ helpers, (piece.stateFunctions states).2 = { piece with helpers := helpers } := by
  induction states generalizing piece with
  | nil => exact ⟨piece.helpers, rfl⟩
  | cons state rest ih =>
    obtain ⟨marked, hmarked⟩ := piece.stateFunction_frame state
    unfold stateFunctions
    split
    · rename_i next hnext
      exact ⟨marked, by rw [← hmarked, hnext]⟩
    · rename_i next hnext
      obtain ⟨helpers, hhelpers⟩ := ih next
      have hkept : next = { piece with helpers := marked } := by rw [← hmarked, hnext]
      exact ⟨helpers, by rw [hhelpers, hkept]⟩

theorem stateFunctions_cons {piece : Workpiece} {state : State} {rest : List State}
    (hstate : piece.symbols.Covers state) (hwide : state.isWide = false) :
    piece.stateFunctions (state :: rest) =
      (((piece.afterState state).stateFunctions rest).1.map (piece.symbols.functionOf state :: ·),
        ((piece.afterState state).stateFunctions rest).2) := by
  rw [stateFunctions, stateFunction_eq hstate, hwide]
  rfl

theorem stateFunctions_eq {piece : Workpiece} {states : List State}
    (hstates : ∀ state ∈ states, piece.symbols.Covers state) :
    (piece.stateFunctions states).1 =
      Fault.unlessWide (states.any (·.isWide)) (states.map piece.symbols.functionOf) := by
  induction states generalizing piece with
  | nil => rfl
  | cons state rest ih =>
    have hstate := hstates state List.mem_cons_self
    cases hwide : state.isWide with
    | true =>
      rw [stateFunctions, stateFunction_eq hstate, hwide]
      simp [hwide]
    | false =>
      have hcovers : ∀ other ∈ rest, (piece.afterState state).symbols.Covers other :=
        fun other hother ↦ by simpa using hstates other (List.mem_cons_of_mem _ hother)
      have hrest := ih hcovers
      rw [stateFunctions_cons hstate hwide]
      dsimp only
      rw [hrest, symbols_afterState]
      cases hany : rest.any (·.isWide) <;> simp [hwide, hany, Except.map]

/-- After all states the helper is marked exactly if one of them is a fault state. -/
theorem blinkHelper_mem_stateFunctions {piece : Workpiece} {states : List State}
    (hstates : ∀ state ∈ states, piece.symbols.Covers state)
    (hwide : states.any (·.isWide) = false) :
    blinkHelper ∈ (piece.stateFunctions states).2.helpers ↔
      blinkHelper ∈ piece.helpers ∨ states.any (·.isFault) = true := by
  induction states generalizing piece with
  | nil => simp [stateFunctions]
  | cons state rest ih =>
    rw [List.any_cons, Bool.or_eq_false_iff] at hwide
    have hcovers : ∀ other ∈ rest, (piece.afterState state).symbols.Covers other :=
      fun other hother ↦ by simpa using hstates other (List.mem_cons_of_mem _ hother)
    have hrest := ih hcovers hwide.2
    rw [stateFunctions_cons (hstates state List.mem_cons_self) hwide.1]
    dsimp only
    rw [hrest]
    cases hfault : state.isFault <;> simp [afterState, hfault]

theorem checkHeader_eq (piece : Workpiece) :
    piece.checkHeader =
      Fault.unlessWide (Text.isTooWide piece.debounce ||
        piece.program.faultPin.any fun pin ↦ Text.isTooWide (pin : Nat)) () := by
  rw [checkHeader, Fault.checkWidth_eq]
  refine Fault.bind_unlessWide _ _ ?_
  cases piece.program.faultPin with
  | none => rfl
  | some pin => simp only [Option.forM, Option.any_some, Fault.checkWidth_eq]

theorem pins_eq {piece : Workpiece}
    (hnamed : ∀ resource ∈ piece.program.registry.resources,
      (piece.symbols.resources.lookup resource.name).isSome = true) :
    piece.pins =
      Fault.unlessWide (piece.program.registry.resources.any (Text.isTooWide ·.port))
        (piece.program.registry.resources.map piece.symbols.declarationOf) :=
  Fault.mapM_unlessWide fun resource hresource ↦
    SymbolTable.pinDeclaration_eq (hnamed resource hresource)

theorem setup_eq {piece : Workpiece}
    (hnamed : ∀ resource ∈ piece.program.registry.resources,
      (piece.symbols.resources.lookup resource.name).isSome = true) :
    piece.setup =
      .ok ((if piece.program.hasFaultStates then
          [.configure faultPinName .output, .write faultPinName .low]
        else []) ++ piece.program.registry.resources.map piece.symbols.configurationOf) := by
  have hconfigured : piece.program.registry.resources.mapM piece.symbols.configure =
      Fault.unlessWide (piece.program.registry.resources.any fun _ ↦ false)
        (piece.program.registry.resources.map piece.symbols.configurationOf) :=
    Fault.mapM_unlessWide fun resource hresource ↦
      SymbolTable.configure_eq (hnamed resource hresource)
  have hnone : (piece.program.registry.resources.any fun _ ↦ false) = false := by simp
  rw [setup, hconfigured, hnone]
  rfl

theorem entry_eq {piece : Workpiece} {initial : String}
    (hinitial : piece.program.initial = some initial)
    (hnamed : (piece.symbols.states.lookup initial).isSome = true) :
    piece.entry = .ok (piece.symbols.functionName initial) := by
  rw [entry, hinitial]
  exact SymbolTable.function_eq_ok hnamed

theorem blinks_eq (piece : Workpiece) : piece.blinks = decide (blinkHelper ∈ piece.helpers) := by
  simp [blinks, helpersInOrder]

end Workpiece

namespace Program

variable {program : Program}

/-- Whether a number in the sketch of the program has too many digits. -/
def hasWideNumeral (program : Program) (debounce : Nat) : Bool :=
  program.states.any (·.isWide) ||
    ((Text.isTooWide debounce || program.faultPin.any fun pin ↦ Text.isTooWide (pin : Nat)) ||
      program.registry.resources.any (Text.isTooWide ·.port))

theorem lookup_resources_isSome (program : Program) (name : String) :
    (program.table.resources.lookup name).isSome = true ↔ name ∈ program.registry.names :=
  (SymbolTable.legal_ofProgram program).resource_named name

theorem lookup_states_isSome (program : Program) (name : String) :
    (program.table.states.lookup name).isSome = true ↔ name ∈ program.stateNames :=
  (SymbolTable.legal_ofProgram program).state_named name

/-- The validator has walked all the names that emission looks up. -/
theorem Resolved.covers (hresolved : program.Resolved) {state : State}
    (hstate : state ∈ program.states) : program.table.Covers state := by
  obtain ⟨hactions, hsensors, htargets⟩ := hresolved.states state hstate
  constructor
  · exact (lookup_states_isSome _ _).2 (List.mem_map_of_mem hstate)
  · exact fun action haction ↦ (lookup_resources_isSome _ _).2 (hactions action haction)
  · exact fun edge hedge sensor hsensor ↦
      (lookup_resources_isSome _ _).2 (hsensors edge hedge sensor hsensor)
  · exact fun edge hedge ↦ (lookup_states_isSome _ _).2 (htargets edge hedge)

theorem sketch_eq (hresolved : program.Resolved) (debounce : Nat) :
    program.sketch debounce =
      Fault.unlessWide (program.hasWideNumeral debounce) (program.sketchOf debounce) := by
  have hnamed : ∀ resource ∈ program.registry.resources,
      (program.table.resources.lookup resource.name).isSome = true :=
    fun resource hresource ↦ (lookup_resources_isSome _ _).2 (List.mem_map_of_mem hresource)
  obtain ⟨initial, hinitial, hdeclared⟩ := hresolved.initial
  let piece := Workpiece.assignSymbols { program := program, debounce := debounce }
  have hstates : ∀ state ∈ program.states, piece.symbols.Covers state :=
    fun state hstate ↦ hresolved.covers hstate
  have hfunctions := Workpiece.stateFunctions_eq hstates
  have hmarked := Workpiece.blinkHelper_mem_stateFunctions hstates
  obtain ⟨helpers, hnext⟩ := piece.stateFunctions_frame program.states
  let next : Workpiece := { piece with helpers := helpers }
  have hpair : piece.stateFunctions program.states =
      (Fault.unlessWide (program.states.any (·.isWide))
        (program.states.map program.table.functionOf), next) :=
    Prod.ext hfunctions hnext
  have hentry : next.entry = .ok (program.table.functionName initial) :=
    Workpiece.entry_eq hinitial ((lookup_states_isSome program initial).2 hdeclared)
  rw [hasWideNumeral]
  change (Workpiece.sketch piece).1 = _
  unfold Workpiece.sketch
  rw [show piece.program.states = program.states from rfl, hpair]
  dsimp only
  rw [Workpiece.checkHeader_eq, Workpiece.pins_eq hnamed, Workpiece.setup_eq hnamed, hentry,
    Workpiece.blinks_eq]
  cases hwide : program.states.any (·.isWide) with
  | true => rfl
  | false =>
    -- The helper is defined as often as a fault state calls for it.
    have hblinks : decide (blinkHelper ∈ next.helpers) = program.hasFaultStates := by
      have hiff := hmarked hwide
      rw [hpair] at hiff
      rw [hasFaultStates, Bool.eq_iff_iff, decide_eq_true_iff, hiff]
      simp [piece, Workpiece.assignSymbols]
    rw [hblinks]
    refine Fault.bind_unlessWide _ _ (Fault.bind_unlessWide _ _ ?_)
    rw [← Bool.or_false (program.registry.resources.any _)]
    refine Fault.bind_unlessWide _ _ ?_
    simp only [sketchOf, hinitial]
    rfl

end Program

end StateSketch
