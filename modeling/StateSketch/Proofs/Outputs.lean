import StateSketch.Proofs.Wiring.Injectivity

/-!
# Driven pins

Sketches drive pins in the functions of states and in the function that blinks.  Every pin that they
drive is configured when the board starts.  It is configured as an output in all places exactly if
the states of the program act on actuators only, which validation does not ask for.
-/

namespace StateSketch

open Wiring

namespace Wiring

/-- The arguments of the calls that drive a pin. -/
def writesOf (calls : List (String × List Atom)) : List (List Atom) :=
  calls.filterMap fun call ↦ if call.1 = "digitalWrite" then some call.2 else none

def Item.writes (item : Item) : List (List Atom) :=
  writesOf item.calls

/-- The sketch configures a pin when the board starts. -/
def Configures (items : List Item) (pin : Atom) (mode : PinMode) : Prop :=
  ∃ item ∈ items, item.name = "setup" ∧ ("pinMode", [pin, .name mode.word]) ∈ item.calls

/-- All that is driven after the start is an output. -/
def DrivesOutputs (items : List Item) : Prop :=
  ∀ item ∈ items, item.name ≠ "setup" → ∀ arguments ∈ item.writes,
    ∃ pin ∈ arguments.head?, Configures items pin .output

instance (items : List Item) (pin : Atom) (mode : PinMode) :
    Decidable (Configures items pin mode) :=
  inferInstanceAs (Decidable (∃ item ∈ items, _))

instance (items : List Item) : Decidable (DrivesOutputs items) :=
  inferInstanceAs (Decidable (∀ item ∈ items, _))

end Wiring

/-- The states act on actuators only. -/
def Program.ActsOnActuators (program : Program) : Prop :=
  ∀ state ∈ program.states, ∀ action ∈ state.actions,
    ∃ resource ∈ program.registry.resources,
      resource.name = action.target ∧ resource.kind = .actuator

instance (program : Program) : Decidable program.ActsOnActuators :=
  inferInstanceAs (Decidable (∀ state ∈ program.states, _))

theorem Resource.pinMode_eq_output_iff (resource : Resource) :
    resource.pinMode = .output ↔ resource.kind = .actuator := by
  cases hkind : resource.kind <;> simp [pinMode, hkind]

/-! ## What is driven -/

namespace Wiring

theorem writesOf_append (first second : List (String × List Atom)) :
    writesOf (first ++ second) = writesOf first ++ writesOf second :=
  List.filterMap_append

theorem writesOf_cons (call : String × List Atom) (rest : List (String × List Atom)) :
    writesOf (call :: rest) = writesOf [call] ++ writesOf rest :=
  writesOf_append [call] rest

theorem writesOf_call {function : String} (hfunction : function ≠ "digitalWrite")
    (arguments : List Atom) : writesOf [(function, arguments)] = [] := by
  simp [writesOf, hfunction]

theorem writesOf_guard (condition : Guard) : writesOf condition.expression.calls = [] := by
  induction condition with
  | reads sensor level => rfl
  | both left right ihleft ihright =>
    rw [Guard.expression, Expression.calls, writesOf_append, ihleft, ihright, List.append_nil]
  | either left right ihleft ihright =>
    rw [Guard.expression, Expression.calls, writesOf_append, ihleft, ihright, List.append_nil]

theorem writesOf_test (test : Test) : writesOf test.expression.calls = [] := by
  cases test with
  | settled condition =>
    rw [Test.expression, Expression.calls, writesOf_append, writesOf_guard]
    rfl
  | elapsed milliseconds => rfl

theorem writesOf_chain {table : SymbolTable} {own : String} {transitions : List Transition}
    (hown : own ≠ "digitalWrite")
    (htargets : ∀ transition ∈ transitions,
      table.functionName transition.target ≠ "digitalWrite") :
    writesOf (elseBlock [.call own] (transitions.map table.branchOf)).calls = [] := by
  induction transitions with
  | nil => exact writesOf_call hown []
  | cons transition rest ih =>
    have htarget := htargets transition List.mem_cons_self
    have hrest := ih fun other hother ↦ htargets other (List.mem_cons_of_mem _ hother)
    have hbody : (stepsBlock (table.branchOf transition).body .done).calls =
        [("millis", []), (table.functionName transition.target, [])] := rfl
    have hwrites : writesOf [("millis", []), (table.functionName transition.target, [])] = [] := by
      rw [writesOf_cons, writesOf_call htarget, writesOf_call (by decide), List.append_nil]
    rw [List.map_cons, elseBlock, Block.calls, hbody]
    simp only [writesOf_append, writesOf_test, hwrites, hrest, Block.calls, List.append_nil]

theorem writesOf_actions (table : SymbolTable) (actions : List Action) :
    writesOf (((actions.map table.writeOf).map Statement.step).flatMap (·.calls)) =
      actions.map fun action ↦
        [.name (table.pinName action.target), .name action.level.word] := by
  induction actions with
  | nil => rfl
  | cons action rest ih =>
    simp only [List.map_cons, List.flatMap_cons, writesOf_append, ih]
    rfl

end Wiring

namespace Program

variable {program : Program} {debounce : Nat}

theorem functionName_ne_digitalWrite {name : String} (hname : name ∈ program.stateNames) :
    program.table.functionName name ≠ "digitalWrite" :=
  functionName_ne_reserved hname (by decide)

/-- The function of a state drives what the actions of the state say, in their order. -/
theorem writes_functionOf (hresolved : program.Resolved) {state : State}
    (hstate : state ∈ program.states) :
    (program.table.functionOf state).item.writes = state.actions.map fun action ↦
      [.name (program.table.pinName action.target), .name action.level.word] := by
  have hown := functionName_ne_digitalWrite
    (List.mem_map_of_mem hstate : state.name ∈ program.stateNames)
  have htargets := (hresolved.states state hstate).targets
  have hcall : writesOf (Step.call (program.table.functionName state.name)).calls = [] :=
    writesOf_call hown []
  have hdispatch : writesOf ((program.table.dispatchOf state).flatMap (·.calls)) = [] := by
    unfold SymbolTable.dispatchOf
    split
    · exact hcall
    · rename_i first rest hedges
      rw [hedges] at htargets
      have hsample : writesOf ((SymbolTable.sampleOf state).flatMap (·.calls)) = [] := by
        unfold SymbolTable.sampleOf
        split <;> rfl
      have hchoose := writesOf_chain hown fun transition htransition ↦
        functionName_ne_digitalWrite (htargets transition htransition)
      rw [List.flatMap_append, writesOf_append, hsample, List.nil_append, List.flatMap_singleton]
      exact hchoose
  rw [Item.writes, Function.item, Item.calls, calls_bodyBlock, Block.calls, List.append_nil,
    SymbolTable.functionOf]
  cases hbody : state.body with
  | fault blinks =>
    have hactions : state.actions = [] := by simp [State.actions, hbody]
    rw [hactions]
    exact hcall
  | normal actions transitions =>
    have hactions : state.actions = actions := by simp [State.actions, hbody]
    rw [hactions, List.flatMap_append, writesOf_append, hdispatch, List.append_nil]
    exact writesOf_actions program.table actions

theorem setup_mem_items (program : Program) (debounce : Nat) :
    Item.function "setup" [] (stepsBlock (program.sketchOf debounce).setup .done) ∈
      (program.sketchOf debounce).items := by
  simp [Sketch.items]

theorem functionOf_mem_items {state : State} (hstate : state ∈ program.states) :
    (program.table.functionOf state).item ∈ (program.sketchOf debounce).items := by
  have hfunction : program.table.functionOf state ∈ (program.sketchOf debounce).functions :=
    List.mem_map_of_mem hstate
  simp only [Sketch.items, List.mem_append, List.mem_map]
  exact .inl (.inl (.inr ⟨_, hfunction, rfl⟩))

/-- The pins that are driven after the start. -/
theorem driven_items (hresolved : program.Resolved) {item : Item}
    (hitem : item ∈ (program.sketchOf debounce).items) (hsetup : item.name ≠ "setup")
    {arguments : List Atom} (harguments : arguments ∈ item.writes) :
    (program.hasFaultStates = true ∧ arguments.head? = some (.name faultPinName)) ∨
      ∃ state ∈ program.states, ∃ action ∈ state.actions,
        arguments.head? = some (.name (program.table.pinName action.target)) := by
  obtain hcalls | rfl | ⟨state, hstate, rfl⟩ | ⟨hfault, rfl⟩ | rfl := calling_items hitem
  · rw [Item.writes, hcalls] at harguments
    cases harguments
  · exact absurd rfl hsetup
  · rw [writes_functionOf hresolved hstate] at harguments
    obtain ⟨action, haction, rfl⟩ := List.mem_map.1 harguments
    exact .inr ⟨state, hstate, action, haction, rfl⟩
  · have hwrites : (Item.function blinkHelper ["errorCode"] (blinkBlock .done)).writes =
        [[.name faultPinName, .name "HIGH"], [.name faultPinName, .name "LOW"]] := by
      decide +kernel
    rw [hwrites] at harguments
    simp only [List.mem_cons, List.not_mem_nil, or_false] at harguments
    obtain rfl | rfl := harguments
    · exact .inl ⟨hfault, rfl⟩
    · exact .inl ⟨hfault, rfl⟩
  · obtain ⟨initial, hinitial, hdeclared⟩ := hresolved.initial
    have hentry : (program.sketchOf debounce).entry = program.table.functionName initial := by
      simp [sketchOf, hinitial]
    have hwrites : (Item.function "loop" []
        (stepsBlock [.call (program.sketchOf debounce).entry] .done)).writes = [] := by
      rw [hentry]
      exact writesOf_call (functionName_ne_digitalWrite hdeclared) []
    rw [hwrites] at harguments
    cases harguments

/-! ## What is configured -/

theorem calls_setup (program : Program) (debounce : Nat) :
    (stepsBlock (program.sketchOf debounce).setup .done).calls =
      (if program.hasFaultStates then
        [("pinMode", [.name faultPinName, .name PinMode.output.word]),
          ("digitalWrite", [.name faultPinName, .name Level.low.word])]
      else []) ++
        program.registry.resources.map fun resource ↦
          ("pinMode",
            [.name (program.table.pinName resource.name), .name resource.pinMode.word]) := by
  rw [calls_stepsBlock, Block.calls, List.append_nil, sketchOf, List.flatMap_append]
  congr 1
  · split <;> rfl
  · rw [List.flatMap_map, List.map_eq_flatMap]
    rfl

theorem configures_items_iff_setup {pin : Atom} {mode : PinMode} :
    Configures (program.sketchOf debounce).items pin mode ↔
      ("pinMode", [pin, .name mode.word]) ∈
        (stepsBlock (program.sketchOf debounce).setup .done).calls := by
  constructor
  · rintro ⟨item, hitem, hname, hcall⟩
    obtain hcalls | rfl | ⟨state, hstate, rfl⟩ | ⟨-, rfl⟩ | rfl := calling_items hitem
    · rw [hcalls] at hcall
      cases hcall
    · exact hcall
    · exact absurd hname (functionName_ne_reserved (List.mem_map_of_mem hstate) (by decide))
    · exact absurd hname (by decide)
    · exact absurd hname (show "loop" ≠ "setup" by decide)
  · intro hcall
    exact ⟨_, setup_mem_items program debounce, rfl, hcall⟩

/-- The board is started with the pins of resources in the modes of their kinds and with the fault
indicator as an output. -/
theorem configures_items_iff {pin : Atom} {mode : PinMode} :
    Configures (program.sketchOf debounce).items pin mode ↔
      (program.hasFaultStates = true ∧ pin = .name faultPinName ∧ mode = .output) ∨
      ∃ resource ∈ program.registry.resources,
        pin = .name (program.table.pinName resource.name) ∧ mode = resource.pinMode := by
  rw [configures_items_iff_setup, calls_setup, List.mem_append, List.mem_map]
  cases program.hasFaultStates <;> simp [PinMode.word_injective.eq_iff, eq_comm]

/-- The pin of a declared resource is an output exactly if the resource is an actuator. -/
theorem configures_pinName_iff {name : String} (hname : name ∈ program.registry.names)
    {mode : PinMode} :
    Configures (program.sketchOf debounce).items (.name (program.table.pinName name)) mode ↔
      ∃ resource ∈ program.registry.resources, resource.name = name ∧ resource.pinMode = mode := by
  have hlegal := SymbolTable.legal_ofProgram program
  rw [configures_items_iff]
  constructor
  · rintro (⟨-, hpin, -⟩ | ⟨resource, hresource, hpin, rfl⟩)
    · exact absurd (Atom.name.inj hpin) (pinName_ne_reserved hname (by decide))
    · have heq := hlegal.pinName_inj hname (List.mem_map_of_mem hresource) (Atom.name.inj hpin)
      exact ⟨resource, hresource, heq.symm, rfl⟩
  · rintro ⟨resource, hresource, rfl, rfl⟩
    exact .inr ⟨resource, hresource, rfl, rfl⟩

theorem configured_of_driven (hresolved : program.Resolved) {item : Item}
    (hitem : item ∈ (program.sketchOf debounce).items) (hsetup : item.name ≠ "setup")
    {arguments : List Atom} (harguments : arguments ∈ item.writes) :
    ∃ pin ∈ arguments.head?, ∃ mode, Configures (program.sketchOf debounce).items pin mode := by
  obtain ⟨hfault, hpin⟩ | ⟨state, hstate, action, haction, hpin⟩ :=
    driven_items hresolved hitem hsetup harguments
  · exact ⟨_, hpin, .output, configures_items_iff.2 (.inl ⟨hfault, rfl, rfl⟩)⟩
  · have hdeclared := (hresolved.states state hstate).actions action haction
    obtain ⟨resource, hresource, hname⟩ := List.mem_map.1 hdeclared
    exact ⟨_, hpin, resource.pinMode,
      (configures_pinName_iff hdeclared).2 ⟨resource, hresource, hname, rfl⟩⟩

theorem drivesOutputs_items_iff (hresolved : program.Resolved) (debounce : Nat) :
    DrivesOutputs (program.sketchOf debounce).items ↔ program.ActsOnActuators := by
  constructor
  · intro houtputs state hstate action haction
    have hname : (program.table.functionOf state).item.name ≠ "setup" :=
      functionName_ne_reserved (List.mem_map_of_mem hstate) (by decide)
    have hwritten : [.name (program.table.pinName action.target), .name action.level.word] ∈
        (program.table.functionOf state).item.writes := by
      rw [writes_functionOf hresolved hstate]
      exact List.mem_map_of_mem haction
    obtain ⟨pin, hpin, hconfigured⟩ :=
      houtputs _ (functionOf_mem_items hstate) hname _ hwritten
    obtain rfl := Option.some.inj hpin
    obtain ⟨resource, hresource, hresource_name, hmode⟩ := (configures_pinName_iff
      ((hresolved.states state hstate).actions action haction)).1 hconfigured
    exact ⟨resource, hresource, hresource_name, resource.pinMode_eq_output_iff.1 hmode⟩
  · intro hactuators item hitem hsetup arguments harguments
    obtain ⟨hfault, hpin⟩ | ⟨state, hstate, action, haction, hpin⟩ :=
      driven_items hresolved hitem hsetup harguments
    · exact ⟨_, hpin, configures_items_iff.2 (.inl ⟨hfault, rfl, rfl⟩)⟩
    · obtain ⟨resource, hresource, hname, hkind⟩ := hactuators state hstate action haction
      have hdeclared := (hresolved.states state hstate).actions action haction
      exact ⟨_, hpin, (configures_pinName_iff hdeclared).2
        ⟨resource, hresource, hname, resource.pinMode_eq_output_iff.2 hkind⟩⟩

/-- Where names are unambiguous, no pin is configured in two ways. -/
theorem mode_unique (hresources : program.registry.Unambiguous) {pin : Atom} {mode other : PinMode}
    (hmode : Configures (program.sketchOf debounce).items pin mode)
    (hother : Configures (program.sketchOf debounce).items pin other) : mode = other := by
  obtain ⟨-, rfl, rfl⟩ | ⟨resource, hresource, rfl, rfl⟩ := configures_items_iff.1 hmode
  · obtain ⟨-, -, rfl⟩ | ⟨resource, hresource, hpin, -⟩ := configures_items_iff.1 hother
    · rfl
    · exact absurd (Atom.name.inj hpin).symm
        (pinName_ne_reserved (List.mem_map_of_mem hresource) (by decide))
  · obtain ⟨second, hsecond, hname, rfl⟩ :=
      (configures_pinName_iff (List.mem_map_of_mem hresource)).1 hother
    rw [List.inj_on_of_nodup_map hresources.names_nodup hsecond hresource hname]

/-! ## Driven pins of compiled programs -/

/-- Read back, what is compiled from a valid program drives only pins that it configures, and it
drives only outputs exactly if the program acts on actuators only. -/
theorem compile_drives_outputs_iff {report : Report} (debounce : Nat)
    (hconstructed : program.IsConstructed) (hreport : program.validate = .ok report)
    (herrors : report.errors = []) :
    (program.hasWideCompilation debounce = true →
      (program.compile debounce).1 = .error .numeralTooWide) ∧
    (program.hasWideCompilation debounce = false →
      ∃ (text : String) (items : List Item),
        (program.compile debounce).1 = .ok { source := some text, report := report } ∧
        read text = some items ∧
        (∀ item ∈ items, item.name ≠ "setup" → ∀ arguments ∈ item.writes,
          ∃ pin ∈ arguments.head?, ∃ mode, Configures items pin mode) ∧
        (program.registry.Reachable → ∀ pin mode other,
          Configures items pin mode → Configures items pin other → mode = other) ∧
        (DrivesOutputs items ↔ program.ActsOnActuators)) := by
  have hresolved := resolved_of_validate hreport herrors
  obtain ⟨hrefused, hemitted⟩ := compile_reads debounce hconstructed hreport herrors
  refine ⟨hrefused, fun hwide ↦ ?_⟩
  obtain ⟨text, hcompile, hread⟩ := hemitted hwide
  refine ⟨text, _, hcompile, hread, ?_, ?_, drivesOutputs_items_iff hresolved debounce⟩
  · intro item hitem hsetup arguments harguments
    exact configured_of_driven hresolved hitem hsetup harguments
  · intro hreachable pin mode other hmode hother
    exact mode_unique (unambiguous_of_validate hreachable hreport herrors) hmode hother

/-- All actions of the barrier are on actuators. -/
theorem barrier_drives_outputs :
    ∃ (text : String) (items : List Item),
      (barrier.compile 50).1 =
        .ok { source := some text, report := .ofDiagnostics barrier.findings } ∧
      read text = some items ∧ DrivesOutputs items ∧
      ∀ pin, Configures items pin .output → ¬Configures items pin .input := by
  have hconstructed : barrier.IsConstructed := ⟨.text "barrier", .integer 13, 1, by decide +kernel⟩
  have hregistry : Registry.fill barrier.registry.resources {} = .ok barrier.registry := by
    decide +kernel
  have hreachable := Registry.Reachable.empty.fill hregistry
  have hreport : barrier.validate = .ok (.ofDiagnostics barrier.findings) := by decide +kernel
  obtain ⟨-, hemitted⟩ := compile_drives_outputs_iff 50 hconstructed hreport (by decide +kernel)
  obtain ⟨text, items, hcompile, hread, -, hmodes, houtputs⟩ := hemitted (by decide +kernel)
  refine ⟨text, items, hcompile, hread, houtputs.2 (by decide +kernel), fun pin hout hin ↦ ?_⟩
  cases hmodes hreachable pin _ _ hout hin

end Program

/-- A state that drives the pin of a sensor. -/
def heldButton : Program where
  name := "HeldButton"
  registry := { resources := [{ name := "button", kind := .sensor, port := 2 }] }
  states := [{ name := "idle", body := .normal [{ target := "button", level := .high }] [] }]
  initial := some "idle"
  initialMarkings := 1

/-- Without an error or a warning, the sketch drives a pin that it has configured as an input. -/
theorem Program.heldButton_drives_input :
    ∃ (text : String) (items : List Item),
      (heldButton.compile 200).1 = .ok { source := some text, report := {} } ∧
      read text = some items ∧ ¬DrivesOutputs items ∧ Configures items (.name "button") .input := by
  have hconstructed : heldButton.IsConstructed :=
    ⟨.text "HeldButton", .nothing, 1, by decide +kernel⟩
  have hreport : heldButton.validate = .ok {} := by decide +kernel
  obtain ⟨-, hemitted⟩ := compile_reads 200 hconstructed hreport rfl
  obtain ⟨text, hcompile, hread⟩ := hemitted (by decide +kernel)
  exact ⟨text, _, hcompile, hread, by decide +kernel, by decide +kernel⟩

end StateSketch
