import StateSketch.Proofs.SketchNames
import StateSketch.Proofs.Wiring.Execution

/-!
# What the functions of a sketch do

Read back and run, the function of a state writes what the actions of the state say and then takes
the first transition that is enabled, or stays.  The proof follows the memory of the sketch, in
which every symbol of a resource holds its port.
-/

namespace StateSketch

open Wiring

/-! ## States -/

/-- Whether a transition is enabled, given the readings of the resources and the milliseconds since
the last transition. -/
def Trigger.isEnabled (reading : String → Level) (elapsed : Int) (debounce : Nat) : Trigger → Bool
  | .guard condition => condition.holds reading && decide (elapsed > debounce)
  | .delay milliseconds => decide (elapsed > milliseconds)

namespace Program

/-- The port of a resource. -/
def portOf (program : Program) (name : String) : Nat :=
  ((program.registry.get? name).map (·.port)).getD 0

/-- The first transition of a state that is enabled. -/
def enabled? (program : Program) (debounce : Nat) (board : Board) (time : Int) (state : State) :
    Option Transition :=
  state.transitions.find? fun transition ↦
    transition.trigger.isEnabled (fun name ↦ board.reading (program.portOf name))
      (board.clock - time) debounce

/-- What happens once the transition is chosen in the state of a name: the clock is restarted and
the machine goes on in the target, or else it stays. -/
def departure (program : Program) (board : Board) (name : String) : Option Transition → List Event
  | some transition =>
    [.stored "time" board.clock, .called (program.table.functionName transition.target) []]
  | none => [.called (program.table.functionName name) []]

/-- What a state that is no fault state does once. -/
def response (program : Program) (debounce : Nat) (board : Board) (time : Int) (state : State) :
    List Event :=
  state.actions.map (fun action ↦ .wrote (program.portOf action.target) action.level) ++
    program.departure board state.name (program.enabled? debounce board time state)

end Program

/-! ## Expressions -/

/-- What the functions of states find in the memory. -/
structure Program.Recalls (program : Program) (debounce : Nat) (time : Int) (memory : Memory) :
    Prop where
  pin : ∀ name ∈ program.registry.names,
    memory.get? (program.table.pinName name) = some (program.portOf name : Int)
  level : ∀ level : Level, memory.get? level.word = some level.value
  time : memory.get? "time" = some time
  debounce : memory.get? "debounce" = some (debounce : Int)
  time_local : ∀ value, update "time" value memory.locals = none
  time_global : ∀ value, (update "time" value memory.globals).isSome = true

namespace Program.Recalls

variable {program : Program} {debounce : Nat} {time : Int} {memory : Memory}

theorem eval_guard (hmemory : program.Recalls debounce time memory) (board : Board)
    {condition : Guard} (hsensors : ∀ sensor ∈ condition.sensors, sensor ∈ program.registry.names) :
    (condition.rename program.table.pinName).expression.eval board memory =
      some (condition.holds fun name ↦ board.reading (program.portOf name)).toInt := by
  induction condition with
  | reads sensor level =>
    have hpin := hmemory.pin sensor (hsensors sensor (by simp [Guard.sensors]))
    have hread : (Expression.call "digitalRead" [.name (program.table.pinName sensor)]).eval board
        memory = some (board.reading (program.portOf sensor)).value := by
      simp [Expression.eval, Atom.eval, hpin, Board.query]
    have hword : (Expression.atom (.name level.word)).eval board memory = some level.value :=
      hmemory.level level
    exact (Expression.eval_binary hread hword .equal).trans
      (congrArg some (Operator.apply_equal_value _ _))
  | both left right ihleft ihright =>
    have hleft := ihleft fun sensor h ↦ hsensors sensor (by simp [Guard.sensors, h])
    have hright := ihright fun sensor h ↦ hsensors sensor (by simp [Guard.sensors, h])
    exact (Expression.eval_binary hleft hright .and).trans
      (congrArg some (Operator.apply_and _ _))
  | either left right ihleft ihright =>
    have hleft := ihleft fun sensor h ↦ hsensors sensor (by simp [Guard.sensors, h])
    have hright := ihright fun sensor h ↦ hsensors sensor (by simp [Guard.sensors, h])
    exact (Expression.eval_binary hleft hright .or).trans
      (congrArg some (Operator.apply_or _ _))

theorem eval_sinceTime (hmemory : program.Recalls debounce time memory) (board : Board) :
    Test.sinceTime.eval board memory = some (board.clock - time) := by
  have hclock : (Expression.call "millis" []).eval board memory = some board.clock := rfl
  have htime : (Expression.atom (.name "time")).eval board memory = some time := hmemory.time
  exact Expression.eval_binary hclock htime .minus

theorem eval_later (hmemory : program.Recalls debounce time memory) (board : Board)
    {bound : Expression} {value : Int} (hbound : bound.eval board memory = some value) :
    (Expression.binary .greater Test.sinceTime bound).eval board memory =
      some (decide (board.clock - time > value)).toInt :=
  Expression.eval_binary (hmemory.eval_sinceTime board) hbound .greater

/-- The test of a branch tells whether its transition is enabled, once `guard` has been set. -/
theorem eval_test (hmemory : program.Recalls debounce time memory) (board : Board)
    {trigger : Trigger} (hsensors : ∀ sensor ∈ trigger.sensors, sensor ∈ program.registry.names)
    (hguard : trigger.isGuard = true →
      memory.get? "guard" = some (decide (board.clock - time > debounce)).toInt) :
    (program.table.testOf trigger).expression.eval board memory =
      some (trigger.isEnabled (fun name ↦ board.reading (program.portOf name))
        (board.clock - time) debounce).toInt := by
  cases trigger with
  | guard condition =>
    have hset : (Expression.atom (.name "guard")).eval board memory =
        some (decide (board.clock - time > debounce)).toInt := hguard rfl
    exact (Expression.eval_binary (hmemory.eval_guard board hsensors) hset .and).trans
      (congrArg some (Operator.apply_and _ _))
  | delay milliseconds => exact hmemory.eval_later board rfl

/-! ## Statements -/

/-- Setting `guard` hides nothing else. -/
theorem declare_guard (hmemory : program.Recalls debounce time memory) (value : Int) :
    program.Recalls debounce time (memory.declare "guard" value) := by
  have hget {name : String} (hname : name ≠ "guard") :
      (memory.declare "guard" value).get? name = memory.get? name := by
    simp [Memory.get?, Memory.declare, List.lookup_cons, beq_false_of_ne hname]
  constructor
  · intro name hname
    rw [hget (pinName_ne_reserved hname (by decide)), hmemory.pin name hname]
  · intro level
    rw [hget (by cases level <;> decide), hmemory.level level]
  · rw [hget (by decide), hmemory.time]
  · rw [hget (by decide), hmemory.debounce]
  · intro other
    simp [Memory.declare, update, hmemory.time_local]
  · exact hmemory.time_global

theorem run_write (hmemory : program.Recalls debounce time memory) (board : Board)
    {action : Action} (htarget : action.target ∈ program.registry.names) (next : Block) :
    ((program.table.writeOf action).block next).run board memory =
      (next.run board memory).map fun (after, events) ↦
        (after, .wrote (program.portOf action.target) action.level :: events) := by
  have hatoms : [Atom.name (program.table.pinName action.target), .name action.level.word].mapM
      (·.eval memory) = some [(program.portOf action.target : Int), action.level.value] := by
    simp [Atom.eval, hmemory.pin _ htarget, hmemory.level]
  have hevent :
      callEvent "digitalWrite" [(program.portOf action.target : Int), action.level.value] =
        some (.wrote (program.portOf action.target) action.level) := by
    simp [callEvent]
  rw [SymbolTable.writeOf, Step.block, Block.run, hatoms]
  simp only [Option.bind_eq_bind, Option.bind_some, hevent]
  cases next.run board memory <;> rfl

theorem run_call (board : Board) {function : String} (hfunction : function ≠ "digitalWrite")
    (next : Block) :
    ((Step.call function).block next).run board memory =
      (next.run board memory).map fun (after, events) ↦ (after, .called function [] :: events) := by
  rw [Step.block, Block.run]
  simp only [List.mapM_nil, Option.pure_def, Option.bind_eq_bind, Option.bind_some, callEvent,
    if_neg hfunction]
  cases next.run board memory <;> rfl

/-- The steps of a branch restart the clock and call the function of the target. -/
theorem run_taken (hmemory : program.Recalls debounce time memory) (board : Board)
    {function : String} (hfunction : function ≠ "digitalWrite") :
    ∃ after, (stepsBlock [.restartClock, .call function] .done).run board memory =
      some (after, [.stored "time" board.clock, .called function []]) := by
  obtain ⟨globals, hglobals⟩ := Option.isSome_iff_exists.1 (hmemory.time_global board.clock)
  have hassign : memory.assign "time" board.clock =
      some ({ memory with globals := globals }, [.stored "time" board.clock]) := by
    simp [Memory.assign, hmemory.time_local, hglobals]
  refine ⟨{ memory with globals := globals }, ?_⟩
  have hcall : ((Step.call function).block .done).run board { memory with globals := globals } =
      some ({ memory with globals := globals }, [.called function []]) := by
    rw [run_call board hfunction]
    rfl
  change (Block.assign "time" (.call "millis" []) ((Step.call function).block .done)).run board
    memory = _
  rw [Block.run, show (Expression.call "millis" []).eval board memory = some board.clock from rfl]
  simp only [Option.bind_eq_bind, Option.bind_some, hassign, hcall]
  rfl

/-- A chain of branches takes the first transition that is enabled. -/
theorem run_chain (hmemory : program.Recalls debounce time memory) (board : Board) {name : String}
    {transitions : List Transition} (hname : name ∈ program.stateNames)
    (hsensors : ∀ transition ∈ transitions, ∀ sensor ∈ transition.trigger.sensors,
      sensor ∈ program.registry.names)
    (htargets : ∀ transition ∈ transitions, transition.target ∈ program.stateNames)
    (hguard : transitions.any (·.trigger.isGuard) = true →
      memory.get? "guard" = some (decide (board.clock - time > debounce)).toInt) :
    ∃ after, (elseBlock [.call (program.table.functionName name)]
        (transitions.map program.table.branchOf)).run board memory =
      some (after, program.departure board name (transitions.find? fun transition ↦
        transition.trigger.isEnabled (fun name ↦ board.reading (program.portOf name))
          (board.clock - time) debounce)) := by
  induction transitions with
  | nil =>
    refine ⟨memory, ?_⟩
    change ((Step.call _).block .done).run board memory = _
    rw [run_call board (functionName_ne_reserved hname (by decide))]
    rfl
  | cons transition rest ih =>
    have htest := hmemory.eval_test board (hsensors transition List.mem_cons_self)
      fun h ↦ hguard (by simp [h])
    rw [List.find?_cons]
    cases henabled : transition.trigger.isEnabled
      (fun name ↦ board.reading (program.portOf name)) (board.clock - time) debounce with
    | true =>
      rw [henabled] at htest
      obtain ⟨inner, hinner⟩ := hmemory.run_taken board
        (functionName_ne_reserved (htargets transition List.mem_cons_self) (by decide))
      exact ⟨memory.leave inner, Block.run_branch htest hinner⟩
    | false =>
      rw [henabled] at htest
      obtain ⟨inner, hinner⟩ := ih
        (fun other hother ↦ hsensors other (List.mem_cons_of_mem _ hother))
        (fun other hother ↦ htargets other (List.mem_cons_of_mem _ hother))
        fun h ↦ hguard (by simp [h])
      exact ⟨memory.leave inner, Block.run_branch htest hinner⟩

theorem run_dispatch (hmemory : program.Recalls debounce time memory) (board : Board)
    {state : State} (hname : state.name ∈ program.stateNames)
    (hresolved : program.StateResolved state) :
    ∃ after, (bodyBlock (program.table.dispatchOf state) .done).run board memory =
      some (after, program.departure board state.name
        (program.enabled? debounce board time state)) := by
  obtain ⟨-, hsensors, htargets⟩ := hresolved
  unfold SymbolTable.dispatchOf Program.enabled?
  cases hedges : state.transitions with
  | nil =>
    refine ⟨memory, ?_⟩
    change ((Step.call _).block .done).run board memory = _
    rw [run_call board (functionName_ne_reserved hname (by decide))]
    rfl
  | cons first rest =>
    rw [hedges] at hsensors htargets
    unfold SymbolTable.sampleOf
    rw [hedges]
    cases hsampled : (first :: rest).any (·.trigger.isGuard) with
    | true =>
      -- The guard holds the value that the tests of the chain ask for.
      have hset : (memory.declare "guard"
          (decide (board.clock - time > debounce)).toInt).get? "guard" =
            some (decide (board.clock - time > debounce)).toInt := rfl
      obtain ⟨after, hafter⟩ := (hmemory.declare_guard _).run_chain board hname hsensors htargets
        fun _ ↦ hset
      refine ⟨after, ?_⟩
      change (Block.declare .boolean "guard" (.binary .greater Test.sinceTime
        (.atom (.name "debounce"))) (elseBlock [.call (program.table.functionName state.name)]
          ((first :: rest).map program.table.branchOf))).run board memory = _
      have hdebounce : (Expression.atom (.name "debounce")).eval board memory =
          some (debounce : Int) := hmemory.debounce
      rw [Block.run, hmemory.eval_later board hdebounce]
      simpa only [Option.bind_eq_bind, Option.bind_some, BaseType.convert_boolean] using hafter
    | false =>
      exact hmemory.run_chain board hname hsensors htargets fun h ↦ by simp [hsampled] at h

theorem run_writes (hmemory : program.Recalls debounce time memory) (board : Board)
    {actions : List Action} (htargets : ∀ action ∈ actions, action.target ∈ program.registry.names)
    (next : Block) :
    (bodyBlock ((actions.map program.table.writeOf).map .step) next).run board memory =
      (next.run board memory).map fun (after, events) ↦
        (after, actions.map (fun action ↦
          .wrote (program.portOf action.target) action.level) ++ events) := by
  induction actions with
  | nil =>
    change next.run board memory = _
    cases next.run board memory <;> rfl
  | cons action rest ih =>
    have hrest := ih fun other hother ↦ htargets other (List.mem_cons_of_mem _ hother)
    change ((program.table.writeOf action).block
      (bodyBlock ((rest.map program.table.writeOf).map .step) next)).run board memory = _
    rw [hmemory.run_write board (htargets action List.mem_cons_self), hrest, Option.map_map]
    rfl

theorem run_body (hmemory : program.Recalls debounce time memory) (board : Board)
    {state : State} (hname : state.name ∈ program.stateNames)
    (hresolved : program.StateResolved state) (hnormal : state.isFault = false) :
    ∃ after, (bodyBlock (program.table.functionOf state).body .done).run board memory =
      some (after, program.response debounce board time state) := by
  have hbody : (program.table.functionOf state).body =
      (state.actions.map program.table.writeOf).map .step ++ program.table.dispatchOf state := by
    unfold SymbolTable.functionOf State.actions
    cases hbody : state.body with
    | normal actions transitions => rfl
    | fault blinks => simp [State.isFault, State.blinks?, hbody] at hnormal
  obtain ⟨after, hafter⟩ := hmemory.run_dispatch board hname hresolved
  refine ⟨after, ?_⟩
  rw [hbody, bodyBlock, List.foldr_append]
  change (bodyBlock _ (bodyBlock _ .done)).run board memory = _
  rw [hmemory.run_writes board hresolved.actions, hafter]
  rfl

end Program.Recalls

/-! ## Sketches -/

namespace Sketch

/-- The variables that the declarations of the pins make. -/
def pinValues (sketch : Sketch) : List (String × Int) :=
  sketch.pins.map fun declaration ↦ (declaration.pin, (declaration.port : Int))

theorem global_items (sketch : Sketch) :
    sketch.items.filterMap (·.global?) =
      ("time", 0) :: ("debounce", (sketch.debounce : Int)) :: sketch.pinValues := by
  have hhelper : (helperItems sketch.blinks).filterMap (·.global?) = [] := by
    cases sketch.blinks <;> rfl
  rw [filterMap_items, hhelper]
  simp [Item.global?, PinDeclaration.item, Function.item, pinValues]

theorem constant_items (sketch : Sketch) :
    sketch.items.filterMap (·.constant?) =
      sketch.faultPin.toList.map fun pin : Nat ↦ (faultPinName, (pin : Int)) := by
  have hhelper : (helperItems sketch.blinks).filterMap (·.constant?) = [] := by
    cases sketch.blinks <;> rfl
  rw [filterMap_items, hhelper]
  simp [Item.constant?, PinDeclaration.item, Function.item]

end Sketch

namespace Program

variable {program : Program} {debounce : Nat}

/-- Look-ups by the symbol of a resource find what look-ups by its name find. -/
theorem lookup_map_pinName {name : String} {resources : List Resource}
    (hsymbols : ∀ resource ∈ resources,
      program.table.pinName resource.name = program.table.pinName name → resource.name = name) :
    (resources.map fun resource ↦
        (program.table.pinName resource.name, (resource.port : Int))).lookup
          (program.table.pinName name) =
      (resources.find? (·.name == name)).map fun resource ↦ (resource.port : Int) := by
  induction resources with
  | nil => rfl
  | cons resource rest ih =>
    have hrest := ih fun other hother ↦ hsymbols other (List.mem_cons_of_mem _ hother)
    by_cases hname : resource.name = name
    · simp [hname]
    · have hsymbol : program.table.pinName name ≠ program.table.pinName resource.name :=
        fun heq ↦ hname (hsymbols resource List.mem_cons_self heq.symm)
      rw [List.map_cons, List.lookup_cons, beq_false_of_ne hsymbol, List.find?_cons,
        beq_false_of_ne hname]
      exact hrest

theorem lookup_pinValues {name : String} (hname : name ∈ program.registry.names) :
    (program.sketchOf debounce).pinValues.lookup (program.table.pinName name) =
      some (program.portOf name : Int) := by
  have hlegal := SymbolTable.legal_ofProgram program
  have hlookup := lookup_map_pinName fun resource hresource heq ↦
    hlegal.pinName_inj (List.mem_map_of_mem hresource) hname heq
  obtain ⟨resource, hfind⟩ := Option.isSome_iff_exists.1
    (List.find?_isSome.2 (by simpa [Registry.names] using hname) :
      (program.registry.resources.find? (·.name == name)).isSome = true)
  have hport : program.portOf name = resource.port := by
    simp [portOf, Registry.get?, hfind]
  have hpins : (program.sketchOf debounce).pinValues = program.registry.resources.map
      fun resource ↦ (program.table.pinName resource.name, (resource.port : Int)) := by
    rw [Sketch.pinValues, sketchOf, List.map_map]
    rfl
  rw [hpins, hlookup, hfind, hport, Option.map_some]

theorem lookup_pinValues_reserved {word : String} (hword : word ∈ Symbol.reservedWords) :
    (program.sketchOf debounce).pinValues.lookup word = none := by
  refine List.lookup_eq_none_iff.2 fun entry hentry ↦ bne_iff_ne.2 fun heq ↦ ?_
  simp only [Sketch.pinValues, sketchOf, List.map_map, List.mem_map] at hentry
  obtain ⟨resource, hresource, rfl⟩ := hentry
  exact pinName_ne_reserved (List.mem_map_of_mem hresource) hword heq.symm

/-- The memory that the functions of a sketch start with. -/
theorem recalls_start (program : Program) (debounce : Nat) (time : Int) :
    ∃ globals, update "time" time ((program.sketchOf debounce).items.filterMap (·.global?)) =
      some globals ∧ program.Recalls debounce time {
        globals := globals
        constants := (program.sketchOf debounce).items.filterMap (·.constant?) ++
          boardConstants } := by
  rw [Sketch.global_items, Sketch.constant_items]
  refine ⟨("time", time) :: ("debounce", (debounce : Int)) ::
    (program.sketchOf debounce).pinValues, by simp [update, sketchOf], ?_⟩
  constructor
  · intro name hname
    have htime : program.table.pinName name ≠ "time" := pinName_ne_reserved hname (by decide)
    have hdebounce : program.table.pinName name ≠ "debounce" :=
      pinName_ne_reserved hname (by decide)
    simp [Memory.get?, List.lookup_cons, beq_false_of_ne htime, beq_false_of_ne hdebounce,
      List.lookup_append, lookup_pinValues hname]
  · intro level
    have hpins : (program.sketchOf debounce).pinValues.lookup level.word = none :=
      lookup_pinValues_reserved (by cases level <;> decide)
    have hdefine : ((program.sketchOf debounce).faultPin.toList.map fun pin : Nat ↦
        (faultPinName, (pin : Int))).lookup level.word = none := by
      cases (program.sketchOf debounce).faultPin <;> cases level <;> rfl
    rw [Memory.get?, List.nil_append, List.cons_append, List.cons_append, List.lookup_cons,
      List.lookup_cons, List.lookup_append, hpins, List.lookup_append, hdefine]
    cases level <;> rfl
  · rfl
  · rfl
  · intro value
    rfl
  · intro value
    simp [update]

/-- The function of a state is the only one of its name. -/
theorem findSome?_functions {state : State} {states : List State} (hstate : state ∈ states)
    (hsymbols : ∀ other ∈ states, program.table.functionName other.name =
      program.table.functionName state.name → other = state) :
    ((states.map program.table.functionOf).map (·.item)).findSome?
        (·.body? (program.table.functionName state.name)) =
      some (bodyBlock (program.table.functionOf state).body .done) := by
  induction states with
  | nil => cases hstate
  | cons other rest ih =>
    rw [List.map_cons, List.map_cons, List.findSome?_cons]
    by_cases hname : program.table.functionName other.name = program.table.functionName state.name
    · obtain rfl := hsymbols other List.mem_cons_self hname
      simp [Function.item, Item.body?, SymbolTable.functionOf]
    · have hrest : state ∈ rest := by
        obtain rfl | hrest := List.mem_cons.1 hstate
        · exact absurd rfl hname
        · exact hrest
      have hnone : (program.table.functionOf other).item.body?
          (program.table.functionName state.name) = none :=
        if_neg hname
      rw [hnone]
      exact ih hrest fun another hanother ↦ hsymbols another (List.mem_cons_of_mem _ hanother)

theorem findSome?_items (hresolved : program.Resolved) {state : State}
    (hstate : state ∈ program.states) :
    (program.sketchOf debounce).items.findSome?
        (·.body? (program.table.functionName state.name)) =
      some (bodyBlock (program.table.functionOf state).body .done) := by
  have hlegal := SymbolTable.legal_ofProgram program
  have hsetup : "setup" ≠ program.table.functionName state.name :=
    (functionName_ne_reserved (List.mem_map_of_mem hstate) (by decide)).symm
  have hfunctions : ((program.sketchOf debounce).functions.map (·.item)).findSome?
      (·.body? (program.table.functionName state.name)) =
        some (bodyBlock (program.table.functionOf state).body .done) :=
    findSome?_functions hstate fun other hother heq ↦
      List.inj_on_of_nodup_map hresolved.states_nodup hother hstate
        (hlegal.functionName_inj (List.mem_map_of_mem hother) (List.mem_map_of_mem hstate) heq)
  have hpins : ((program.sketchOf debounce).pins.map (·.item)).findSome?
      (·.body? (program.table.functionName state.name)) = none := by
    refine List.findSome?_eq_none_iff.2 fun item hitem ↦ ?_
    obtain ⟨declaration, -, rfl⟩ := List.mem_map.1 hitem
    rfl
  have hdefine : ((program.sketchOf debounce).faultPin.toList.map
      (Item.define faultPinName)).findSome?
        (·.body? (program.table.functionName state.name)) = none := by
    cases (program.sketchOf debounce).faultPin <;> rfl
  simp only [Sketch.items, List.findSome?_append, hpins, hdefine, hfunctions]
  simp [Item.body?, hsetup]

theorem perform_items (hresolved : program.Resolved) (debounce : Nat) (board : Board) (time : Int)
    {state : State} (hstate : state ∈ program.states) (hnormal : state.isFault = false) :
    perform (program.sketchOf debounce).items board time
        (program.table.functionName state.name) =
      some (program.response debounce board time state) := by
  obtain ⟨globals, hglobals, hmemory⟩ := recalls_start program debounce time
  obtain ⟨after, hafter⟩ := hmemory.run_body board (List.mem_map_of_mem hstate)
    (hresolved.states state hstate) hnormal
  rw [perform, findSome?_items hresolved hstate]
  simp only [Option.bind_eq_bind, Option.bind_some, hglobals, hafter]

/-- Read back, what is compiled from a valid program does what the program says: one run of the
function of a state writes the levels of its actions, and then either restarts the clock and calls
the function of the target of the first enabled transition, or only calls itself again. -/
theorem compile_responds {report : Report} (debounce : Nat) (hconstructed : program.IsConstructed)
    (hreport : program.validate = .ok report) (herrors : report.errors = []) :
    (program.hasWideCompilation debounce = true →
      (program.compile debounce).1 = .error .numeralTooWide) ∧
    (program.hasWideCompilation debounce = false →
      ∃ (text : String) (items : List Item),
        (program.compile debounce).1 = .ok { source := some text, report := report } ∧
        read text = some items ∧
        ∀ state ∈ program.states, state.isFault = false → ∀ (board : Board) (time : Int),
          perform items board time (program.table.functionName state.name) =
            some (program.response debounce board time state)) := by
  have hresolved := resolved_of_validate hreport herrors
  obtain ⟨hrefused, hemitted⟩ := compile_reads debounce hconstructed hreport herrors
  refine ⟨hrefused, fun hwide ↦ ?_⟩
  obtain ⟨text, hcompile, hread⟩ := hemitted hwide
  exact ⟨text, _, hcompile, hread, fun state hstate hnormal board time ↦
    perform_items hresolved debounce board time hstate hnormal⟩

/-- The barrier opens once a car waits and the key has been held for long enough. -/
theorem barrier_opens :
    ∃ (text : String) (items : List Item),
      (barrier.compile 50).1 =
        .ok { source := some text, report := .ofDiagnostics barrier.findings } ∧
      read text = some items ∧
      perform items
        { reading := fun port ↦ if port = 2 ∨ port = 3 then .high else .low, clock := 100 } 20
          "state_closed" =
        some [.wrote 8 .low, .wrote 9 .high, .stored "time" 100, .called "state_open" []] := by
  have hconstructed : barrier.IsConstructed := ⟨.text "barrier", .integer 13, 1, by decide +kernel⟩
  have hreport : barrier.validate = .ok (.ofDiagnostics barrier.findings) := by decide +kernel
  obtain ⟨-, hemitted⟩ := compile_responds 50 hconstructed hreport (by decide +kernel)
  obtain ⟨text, items, hcompile, hread, hresponds⟩ := hemitted (by decide +kernel)
  have hname : barrier.table.functionName (barrier.states.head (by decide)).name =
      "state_closed" := by
    decide +kernel
  refine ⟨text, items, hcompile, hread, ?_⟩
  rw [← hname, hresponds _ (List.head_mem _) (by decide +kernel)]
  decide +kernel

end Program

end StateSketch
