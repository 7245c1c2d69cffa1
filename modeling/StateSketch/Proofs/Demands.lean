import StateSketch.Proofs.Emission

/-!
# What the function of a state asks for

Writing the function of a state asks for symbols of names and for numbers that can be shown, in
a fixed order: the name of the state, the targets of its actions, and for each transition its
sensors or its delay and then its target.  The symbols may be any.  The function exists exactly if
all demands are met, and otherwise the first one that is not met is the fault.  Nothing is changed
by a failure, except that a fault state calls for the helper before its number is looked at.
-/

namespace StateSketch

/-- What has to be there before the function of a state can be written. -/
inductive Demand where
  /-- A symbol for a name. -/
  | symbol (role : SymbolRole) (name : String)
  /-- A number that can be shown. -/
  | numeral (number : Nat)
deriving DecidableEq

/-- What is reported if the demand is not met. -/
def Demand.fault : Demand → Fault
  | .symbol role name => .unassigned role (Text.quote name)
  | .numeral _ => .numeralTooWide

def Demand.isNumeral : Demand → Bool
  | .symbol _ _ => false
  | .numeral _ => true

def Trigger.demands : Trigger → List Demand
  | .guard condition => condition.sensors.map (.symbol .resource)
  | .delay milliseconds => [.numeral milliseconds]

def Transition.demands (transition : Transition) : List Demand :=
  transition.trigger.demands ++ [.symbol .state transition.target]

def Body.demands : Body → List Demand
  | .normal actions transitions =>
    actions.map (.symbol .resource ·.target) ++ transitions.flatMap (·.demands)
  | .fault blinks => [.numeral blinks]

/-- All demands of a state in the order in which they are made. -/
def State.demands (state : State) : List Demand :=
  .symbol .state state.name :: state.body.demands

namespace SymbolTable

/-- The symbols of resources or of states. -/
def entries (table : SymbolTable) : SymbolRole → List (String × String)
  | .resource => table.resources
  | .state => table.states

def meets (table : SymbolTable) : Demand → Bool
  | .symbol role name => ((table.entries role).lookup name).isSome
  | .numeral number => !Text.isTooWide number

/-- The fault of the first demand that is not met. -/
def obstacle? (table : SymbolTable) (demands : List Demand) : Option Fault :=
  (demands.find? (!table.meets ·)).map Demand.fault

theorem obstacle?_append (table : SymbolTable) (demands more : List Demand) :
    table.obstacle? (demands ++ more) = (table.obstacle? demands).or (table.obstacle? more) := by
  rw [obstacle?, List.find?_append, Option.map_or]
  rfl

theorem obstacle?_eq_none_iff {table : SymbolTable} {demands : List Demand} :
    table.obstacle? demands = none ↔ ∀ demand ∈ demands, table.meets demand = true := by
  simp [obstacle?]

theorem obstacle?_of_first {table : SymbolTable} {before after : List Demand} {demand : Demand}
    (hbefore : ∀ earlier ∈ before, table.meets earlier = true)
    (hdemand : table.meets demand = false) :
    table.obstacle? (before ++ demand :: after) = some demand.fault := by
  rw [obstacle?_append, obstacle?_eq_none_iff.2 hbefore, Option.none_or, obstacle?,
    List.find?_cons_of_pos (by simpa using hdemand), Option.map_some]

end SymbolTable

/-- The fault of a computation that fails. -/
def Fault.of? {α : Type} : Except Fault α → Option Fault
  | .ok _ => none
  | .error fault => some fault

namespace SymbolTable

variable {α β : Type} {table : SymbolTable} {demands more : List Demand} {call : Except Fault α}

/-- The computation fails on the first of the demands that is not met, and on nothing else. -/
def Asks (table : SymbolTable) (demands : List Demand) (call : Except Fault α) : Prop :=
  Fault.of? call = table.obstacle? demands

theorem asks_ok (value : α) : table.Asks [] (.ok value) :=
  rfl

theorem Asks.bind {next : α → Except Fault β} (hcall : table.Asks demands call)
    (hnext : ∀ value, call = .ok value → table.Asks more (next value)) :
    table.Asks (demands ++ more) (call >>= next) := by
  unfold Asks at *
  rw [obstacle?_append, ← hcall]
  cases call with
  | ok value => exact hnext value rfl
  | error fault => rfl

/-- What only goes on with a value asks for nothing more. -/
theorem Asks.andThen {next : α → Except Fault β} (hcall : table.Asks demands call)
    (hnext : ∀ value, table.Asks [] (next value)) : table.Asks demands (call >>= next) := by
  simpa using hcall.bind fun value _ ↦ hnext value

theorem Asks.mapM {items : List α} {step : α → Except Fault β} {asked : α → List Demand}
    (hstep : ∀ item, table.Asks (asked item) (step item)) :
    table.Asks (items.flatMap asked) (items.mapM step) := by
  induction items with
  | nil => exact asks_ok []
  | cons item rest ih =>
    rw [List.mapM_cons, List.flatMap_cons]
    exact (hstep item).bind fun value _ ↦ ih.andThen fun values ↦ asks_ok (value :: values)

theorem Asks.exists_ok_iff (hcall : table.Asks demands call) :
    (∃ value, call = .ok value) ↔ ∀ demand ∈ demands, table.meets demand = true := by
  rw [← obstacle?_eq_none_iff, ← hcall]
  cases call <;> simp [Fault.of?]

theorem Asks.eq_error {before after : List Demand} {demand : Demand}
    (hcall : table.Asks (before ++ demand :: after) call)
    (hbefore : ∀ earlier ∈ before, table.meets earlier = true)
    (hdemand : table.meets demand = false) : call = .error demand.fault := by
  rw [Asks, obstacle?_of_first hbefore hdemand] at hcall
  cases call with
  | ok value => cases hcall
  | error fault => rw [Option.some.inj hcall]

/-! ## The parts of a function -/

theorem asks_pin (table : SymbolTable) (name : String) :
    table.Asks [.symbol .resource name] (table.pin name) := by
  unfold Asks obstacle? pin
  cases hlookup : table.resources.lookup name <;>
    simp [meets, entries, hlookup, Fault.of?, Demand.fault]

theorem asks_function (table : SymbolTable) (name : String) :
    table.Asks [.symbol .state name] (table.function name) := by
  unfold Asks obstacle? function
  cases hlookup : table.states.lookup name <;>
    simp [meets, entries, hlookup, Fault.of?, Demand.fault]

theorem asks_checkWidth (table : SymbolTable) (number : Nat) :
    table.Asks [.numeral number] (Fault.checkWidth number) := by
  unfold Asks obstacle? Fault.checkWidth
  cases hwide : Text.isTooWide number <;> simp [meets, hwide, Fault.of?, Demand.fault]

theorem asks_guard (table : SymbolTable) (condition : Guard) :
    table.Asks (condition.sensors.map (.symbol .resource)) (table.guard condition) := by
  induction condition with
  | reads sensor level => exact (table.asks_pin sensor).andThen fun _ ↦ asks_ok _
  | both left right hleft hright =>
    rw [Guard.sensors, List.map_append]
    exact hleft.bind fun _ _ ↦ hright.andThen fun _ ↦ asks_ok _
  | either left right hleft hright =>
    rw [Guard.sensors, List.map_append]
    exact hleft.bind fun _ _ ↦ hright.andThen fun _ ↦ asks_ok _

theorem asks_test (table : SymbolTable) (trigger : Trigger) :
    table.Asks trigger.demands (table.test trigger) := by
  cases trigger with
  | guard condition => exact (table.asks_guard condition).andThen fun _ ↦ asks_ok _
  | delay milliseconds => exact (table.asks_checkWidth milliseconds).andThen fun _ ↦ asks_ok _

theorem asks_write (table : SymbolTable) (action : Action) :
    table.Asks [.symbol .resource action.target] (table.write action) :=
  (table.asks_pin action.target).andThen fun _ ↦ asks_ok _

theorem asks_branch (table : SymbolTable) (transition : Transition) :
    table.Asks transition.demands (table.branch transition) :=
  (table.asks_test transition.trigger).bind fun _ _ ↦
    (table.asks_function transition.target).andThen fun _ ↦ asks_ok _

/-- The symbol of the state itself is asked for a second time, which cannot fail any more. -/
theorem asks_dispatch {state : State} {self : String}
    (hself : table.function state.name = .ok self) :
    table.Asks (state.transitions.flatMap (·.demands)) (table.dispatch state) := by
  rw [dispatch, hself]
  refine (Asks.mapM table.asks_branch).andThen fun branches ↦ ?_
  cases branches <;> exact asks_ok _

theorem asks_stateFunction (table : SymbolTable) (state : State) :
    table.Asks state.demands (table.stateFunction state) := by
  refine (table.asks_function state.name).bind fun self hself ↦ ?_
  have hdispatch := asks_dispatch hself
  cases hbody : state.body with
  | fault blinks => exact (table.asks_checkWidth blinks).andThen fun _ ↦ asks_ok _
  | normal actions transitions =>
    have htransitions : state.transitions = transitions := by rw [State.transitions, hbody]
    rw [htransitions] at hdispatch
    dsimp only [Body.demands]
    rw [List.map_eq_flatMap]
    exact (Asks.mapM table.asks_write).bind fun _ _ ↦ hdispatch.andThen fun _ ↦ asks_ok _

end SymbolTable

namespace Workpiece

/-- A failure marks a helper only in a fault state that has a symbol. -/
theorem stateFunction_snd_of_unmet {piece : Workpiece} {state : State} {before after : List Demand}
    {demand : Demand} (hdemands : state.demands = before ++ demand :: after)
    (hbefore : ∀ earlier ∈ before, piece.symbols.meets earlier = true)
    (hdemand : piece.symbols.meets demand = false) :
    (piece.stateFunction state).2 =
      if state.isFault && demand.isNumeral then piece.markHelper blinkHelper else piece := by
  unfold stateFunction State.isFault State.blinks?
  unfold State.demands at hdemands
  cases hbody : state.body with
  | normal actions transitions => rfl
  | fault blinks =>
    rw [hbody] at hdemands
    -- The two demands of a fault state are its symbol and its number, in this order.
    cases before with
    | nil =>
      obtain ⟨rfl, -⟩ := List.cons_eq_cons.1 hdemands
      dsimp only [SymbolTable.meets, SymbolTable.entries] at hdemand
      rw [hdemand]
      rfl
    | cons first rest =>
      obtain ⟨rfl, hnumeral⟩ := List.cons_eq_cons.1 hdemands
      have hsymbol := hbefore _ List.mem_cons_self
      dsimp only [SymbolTable.meets, SymbolTable.entries] at hsymbol
      rw [hsymbol]
      cases rest with
      | nil =>
        obtain ⟨rfl, -⟩ := List.cons_eq_cons.1 hnumeral
        rfl
      | cons second rest => simp [Body.demands] at hnumeral

/-- The function of a state can be written exactly if all its demands are met, whatever symbols
there are.  Otherwise the first demand that is not met is reported and the workpiece stays as it is,
except that a fault state with a symbol has called for the helper before its number of blinks turns
out to be too wide. -/
theorem stateFunction_stops_at_first_unmet (piece : Workpiece) (state : State) :
    let run := piece.stateFunction state
    ((∃ function, run.1 = .ok function) ↔
      ∀ demand ∈ state.demands, piece.symbols.meets demand = true) ∧
    ∀ before demand after, state.demands = before ++ demand :: after →
      (∀ earlier ∈ before, piece.symbols.meets earlier = true) →
      piece.symbols.meets demand = false →
      run.1 = .error demand.fault ∧
        run.2 = if state.isFault && demand.isNumeral then piece.markHelper blinkHelper
          else piece := by
  have hasks := piece.symbols.asks_stateFunction state
  refine ⟨hasks.exists_ok_iff, fun before demand after hdemands hbefore hdemand ↦ ⟨?_, ?_⟩⟩
  · rw [hdemands] at hasks
    exact hasks.eq_error hbefore hdemand
  · exact stateFunction_snd_of_unmet hdemands hbefore hdemand

/-- A workpiece whose symbols were given before a door and a second state were declared. -/
def staleLock : Workpiece where
  program := { name := "Lock" }
  debounce := 200
  symbols := {
    resources := [("bolt", "bolt"), ("key", "key")]
    states := [("shut", "state_shut"), ("stuck", "state_stuck")] }

/-- The door comes after the bolt and the key and before the state that it leads to. -/
theorem staleLock_lacks_door :
    let state : State := {
      name := "shut"
      body := .normal [{ target := "bolt", level := .high }] [{
        trigger := .guard (.both (.reads "key" .high) (.either (.reads "door" .low)
          (.reads "window" .low)))
        target := "open" }] }
    staleLock.stateFunction state = (.error (.unassigned .resource "'door'"), staleLock) := by
  intro state
  obtain ⟨-, hunmet⟩ := staleLock.stateFunction_stops_at_first_unmet state
  obtain ⟨hfault, hpiece⟩ := hunmet
    [.symbol .state "shut", .symbol .resource "bolt", .symbol .resource "key"]
    (.symbol .resource "door") [.symbol .resource "window", .symbol .state "open"]
    (by decide) (by decide) (by decide)
  have hquoted : Text.quote "door" = "'door'" := by decide +kernel
  rw [Demand.fault, hquoted] at hfault
  exact Prod.ext hfault hpiece

/-- All names of these states have symbols, but numbers in them cannot be shown.  One of the states
leaves a helper marked. -/
theorem staleLock_lacks_numerals :
    let waiting : State := {
      name := "shut"
      body := .normal [] [{ trigger := .delay Text.leastWide, target := "stuck" }] }
    let blinking : State := { name := "stuck", body := .fault Text.leastWide }
    (∀ demand ∈ waiting.demands ++ blinking.demands, demand.isNumeral = false →
      staleLock.symbols.meets demand = true) ∧
    (staleLock.stateFunction waiting).1 = .error .numeralTooWide ∧
    (staleLock.stateFunction blinking).1 = .error .numeralTooWide ∧
    staleLock.helpers = [] ∧ (staleLock.stateFunction blinking).2.helpers = [blinkHelper] := by
  decide +kernel

end Workpiece

end StateSketch
