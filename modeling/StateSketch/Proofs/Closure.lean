import StateSketch.Proofs.Behaviour

/-!
# Closed sketches

In the sketch of a valid program every function that is called is defined once, every pin that is
used is declared once, no two definitions have the same name, and no two pins share a port.
-/

namespace StateSketch

open Wiring

namespace Wiring

/-! ## Calls and definitions -/

def Expression.calls : Expression → List (String × List Atom)
  | .atom _ => []
  | .call function arguments => [(function, arguments)]
  | .binary _ left right => left.calls ++ right.calls

def Block.calls : Block → List (String × List Atom)
  | .done => []
  | .call function arguments next => (function, arguments) :: next.calls
  | .assign _ value next => value.calls ++ next.calls
  | .declare _ _ value next => value.calls ++ next.calls
  | .branch test yes no next => test.calls ++ yes.calls ++ no.calls ++ next.calls
  | .loop _ start test body next => start.calls ++ test.calls ++ body.calls ++ next.calls

namespace Item

def name : Item → String
  | .define name _ => name
  | .variable _ name _ => name
  | .function name _ _ => name

def calls : Item → List (String × List Atom)
  | .function _ _ body => body.calls
  | _ => []

def function? : Item → Option String
  | .function name _ _ => some name
  | _ => none

/-- A variable for a pin, and its port. -/
def pin? : Item → Option (String × Int)
  | .variable .int name value => some (name, value)
  | _ => none

end Item

theorem Item.name_of_function? (item : Item) (name : String)
    (hname : item.function? = some name) : name = item.name := by
  cases item with
  | function => exact (Option.some.inj hname).symm
  | _ => cases hname

theorem Item.name_of_constant? (item : Item) (entry : String × Int)
    (hentry : item.constant? = some entry) : entry.1 = item.name := by
  cases item with
  | define => rw [← Option.some.inj hentry]; rfl
  | _ => cases hentry

theorem Item.name_of_pin? (item : Item) (entry : String × Int)
    (hentry : item.pin? = some entry) : entry.1 = item.name := by
  cases item with
  | «variable» type name value =>
    cases type with
    | int => rw [← Option.some.inj hentry]; rfl
    | _ => cases hentry
  | _ => cases hentry

/-- The functions of the board that take a pin as their first argument. -/
def pinFunctions : List String :=
  ["digitalRead", "digitalWrite", "pinMode"]

def boardFunctions : List String :=
  pinFunctions ++ ["millis", "delay"]

/-- A sketch that can be linked and drives no port twice.  The function that blinks is there exactly
if there are `faults`. -/
structure Closed (items : List Item) (faults : Bool) : Prop where
  functions : ∀ call ∈ items.flatMap (·.calls), call.1 ∉ boardFunctions →
    (items.filterMap (·.function?)).count call.1 = 1
  pins : ∀ call ∈ items.flatMap (·.calls), call.1 ∈ pinFunctions →
    ∃ pin, call.2.head? = some (.name pin) ∧
      if pin = faultPinName then ((items.filterMap (·.constant?)).map (·.1)).count pin = 1
      else ((items.filterMap (·.pin?)).map (·.1)).count pin = 1
  helper : (items.filterMap (·.function?)).count blinkHelper = if faults then 1 else 0
  helper_called : ∀ call ∈ items.flatMap (·.calls), call.1 = blinkHelper → faults = true
  names_nodup : (items.map (·.name)).Nodup
  names_foreign : ∀ name ∈ items.map (·.name), name ∉ boardFunctions
  ports_nodup : ((items.filterMap (·.pin?)).map (·.2) ++
    (items.filterMap (·.constant?)).map (·.2)).Nodup

end Wiring

/-! ## Calls of sketches -/

namespace Step

def calls (step : Step) : List (String × List Atom) :=
  (step.block .done).calls

theorem calls_block (step : Step) (next : Block) :
    (step.block next).calls = step.calls ++ next.calls := by
  cases step <;> rfl

end Step

theorem calls_stepsBlock (steps : List Step) (next : Block) :
    (stepsBlock steps next).calls = steps.flatMap (·.calls) ++ next.calls := by
  induction steps with
  | nil => rfl
  | cons step rest ih =>
    change (step.block (stepsBlock rest next)).calls = _
    rw [Step.calls_block, ih, List.flatMap_cons, List.append_assoc]

namespace Statement

def calls (statement : Statement) : List (String × List Atom) :=
  (statement.block .done).calls

theorem calls_block (statement : Statement) (next : Block) :
    (statement.block next).calls = statement.calls ++ next.calls := by
  cases statement with
  | step single => exact single.calls_block next
  | choose first rest otherwise => simp [block, calls, Block.calls]

end Statement

theorem calls_bodyBlock (body : List Statement) (next : Block) :
    (bodyBlock body next).calls = body.flatMap (·.calls) ++ next.calls := by
  induction body with
  | nil => rfl
  | cons statement rest ih =>
    change (statement.block (bodyBlock rest next)).calls = _
    rw [Statement.calls_block, ih, List.flatMap_cons, List.append_assoc]

namespace Program

variable {program : Program} {debounce : Nat}

/-- The calls in the sketch of a program. -/
inductive Permits (program : Program) : String × List Atom → Prop where
  | pin {function name : String} {rest : List Atom} (hfunction : function ∈ pinFunctions)
      (hname : name ∈ program.registry.names) :
      Permits program (function, .name (program.table.pinName name) :: rest)
  | faultPin {function : String} {rest : List Atom} (hfunction : function ∈ pinFunctions)
      (hfault : program.hasFaultStates = true) :
      Permits program (function, .name faultPinName :: rest)
  | board {function : String} {arguments : List Atom} (hfunction : function ∈ ["millis", "delay"]) :
      Permits program (function, arguments)
  | state {name : String} (hname : name ∈ program.stateNames) :
      Permits program (program.table.functionName name, [])
  | blink {arguments : List Atom} (hfault : program.hasFaultStates = true) :
      Permits program (blinkHelper, arguments)

theorem permits_guard {condition : Guard}
    (hsensors : ∀ sensor ∈ condition.sensors, sensor ∈ program.registry.names) :
    ∀ call ∈ (condition.rename program.table.pinName).expression.calls, program.Permits call := by
  induction condition with
  | reads sensor level =>
    intro call hcall
    obtain rfl : call = ("digitalRead", [.name (program.table.pinName sensor)]) := by
      simpa [Guard.rename, Guard.expression, Expression.calls] using hcall
    exact .pin (by decide) (hsensors sensor (by simp [Guard.sensors]))
  | both left right ihleft ihright =>
    intro call hcall
    obtain hleft | hright := List.mem_append.1 hcall
    · exact ihleft (fun sensor h ↦ hsensors sensor (by simp [Guard.sensors, h])) call hleft
    · exact ihright (fun sensor h ↦ hsensors sensor (by simp [Guard.sensors, h])) call hright
  | either left right ihleft ihright =>
    intro call hcall
    obtain hleft | hright := List.mem_append.1 hcall
    · exact ihleft (fun sensor h ↦ hsensors sensor (by simp [Guard.sensors, h])) call hleft
    · exact ihright (fun sensor h ↦ hsensors sensor (by simp [Guard.sensors, h])) call hright

theorem permits_test {trigger : Trigger}
    (hsensors : ∀ sensor ∈ trigger.sensors, sensor ∈ program.registry.names) :
    ∀ call ∈ (program.table.testOf trigger).expression.calls, program.Permits call := by
  intro call hcall
  cases trigger with
  | guard condition =>
    obtain hguard | hatom := List.mem_append.1 hcall
    · exact permits_guard hsensors call hguard
    · cases hatom
  | delay milliseconds =>
    obtain rfl : call = ("millis", []) := by
      simpa [SymbolTable.testOf, Test.expression, Test.sinceTime, Expression.calls] using hcall
    exact .board (by decide)

/-- A call of the function of a state. -/
theorem permits_call {name : String} (hname : name ∈ program.stateNames) :
    ∀ call ∈ (Step.call (program.table.functionName name)).calls, program.Permits call := by
  intro call hcall
  obtain rfl := List.mem_singleton.1 hcall
  exact .state hname

theorem permits_chain {name : String} {transitions : List Transition}
    (hname : name ∈ program.stateNames)
    (hsensors : ∀ transition ∈ transitions, ∀ sensor ∈ transition.trigger.sensors,
      sensor ∈ program.registry.names)
    (htargets : ∀ transition ∈ transitions, transition.target ∈ program.stateNames) :
    ∀ call ∈ (elseBlock [.call (program.table.functionName name)]
      (transitions.map program.table.branchOf)).calls, program.Permits call := by
  induction transitions with
  | nil => exact permits_call hname
  | cons transition rest ih =>
    have hrest := ih (fun other hother ↦ hsensors other (List.mem_cons_of_mem _ hother))
      fun other hother ↦ htargets other (List.mem_cons_of_mem _ hother)
    have hbody : (stepsBlock (program.table.branchOf transition).body .done).calls =
        ("millis", []) :: (Step.call (program.table.functionName transition.target)).calls := rfl
    intro call hcall
    rw [List.map_cons, elseBlock, Block.calls, hbody] at hcall
    simp only [List.mem_append, List.mem_cons, Block.calls, List.not_mem_nil, or_false] at hcall
    obtain (htest | rfl | htarget) | hothers := hcall
    · exact permits_test (hsensors transition List.mem_cons_self) call htest
    · exact .board (by decide)
    · exact permits_call (htargets transition List.mem_cons_self) call htarget
    · exact hrest call hothers

theorem permits_function (hresolved : program.Resolved) {state : State}
    (hstate : state ∈ program.states) :
    ∀ call ∈ (program.table.functionOf state).item.calls, program.Permits call := by
  have hself := permits_call (List.mem_map_of_mem hstate : state.name ∈ program.stateNames)
  obtain ⟨hactions, hsensors, htargets⟩ := hresolved.states state hstate
  intro call hcall
  rw [Function.item, Item.calls, calls_bodyBlock, Block.calls, List.append_nil] at hcall
  obtain ⟨statement, hstatement, hcall⟩ := List.mem_flatMap.1 hcall
  obtain ⟨blinks, hbody, rfl⟩ | rfl | ⟨action, haction, rfl⟩ | rfl | ⟨first, rest, hedges, rfl⟩ :=
    SymbolTable.mem_body_functionOf hstatement
  · obtain rfl := List.mem_singleton.1 hcall
    exact .blink (List.any_eq_true.2 ⟨state, hstate, by simp [State.isFault, State.blinks?, hbody]⟩)
  · exact hself call hcall
  · obtain rfl := List.mem_singleton.1 hcall
    exact .pin (by decide) (hactions action haction)
  · obtain rfl := List.mem_singleton.1 hcall
    exact .board (by decide)
  · rw [hedges] at hsensors htargets
    exact permits_chain (List.mem_map_of_mem hstate) hsensors htargets call hcall

theorem permits_setup (program : Program) (debounce : Nat) :
    ∀ call ∈ (stepsBlock (program.sketchOf debounce).setup .done).calls, program.Permits call := by
  intro call hcall
  rw [calls_stepsBlock, Block.calls, List.append_nil] at hcall
  obtain ⟨step, hstep, hcall⟩ := List.mem_flatMap.1 hcall
  obtain hfault | hconfigure := List.mem_append.1 hstep
  · split at hfault
    · rename_i hfaults
      simp only [List.mem_cons, List.not_mem_nil, or_false] at hfault
      obtain rfl | rfl := hfault
      all_goals
        obtain rfl := List.mem_singleton.1 hcall
        exact .faultPin (by decide) hfaults
    · cases hfault
  · obtain ⟨resource, hresource, rfl⟩ := List.mem_map.1 hconfigure
    obtain rfl := List.mem_singleton.1 hcall
    exact .pin (by decide) (List.mem_map_of_mem hresource)

theorem permits_helper (hfault : program.hasFaultStates = true) :
    ∀ call ∈ (blinkBlock .done).calls, program.Permits call := by
  intro call hcall
  have hcalls : (blinkBlock .done).calls =
      [("digitalWrite", [.name faultPinName, .name "HIGH"]), ("delay", [.number blinkPulse]),
        ("digitalWrite", [.name faultPinName, .name "LOW"]), ("delay", [.number blinkPulse]),
        ("delay", [.number blinkPause])] := rfl
  simp only [hcalls, List.mem_cons, List.not_mem_nil, or_false] at hcall
  obtain rfl | rfl | rfl | rfl | rfl := hcall
  · exact .faultPin (by decide) hfault
  · exact .board (by decide)
  · exact .faultPin (by decide) hfault
  · exact .board (by decide)
  · exact .board (by decide)

/-- Only functions call, and there are four kinds of them. -/
theorem calling_items {item : Item} (hitem : item ∈ (program.sketchOf debounce).items) :
    item.calls = [] ∨
      item = .function "setup" [] (stepsBlock (program.sketchOf debounce).setup .done) ∨
      (∃ state ∈ program.states, item = (program.table.functionOf state).item) ∨
      (program.hasFaultStates = true ∧
        item = .function blinkHelper ["errorCode"] (blinkBlock .done)) ∨
      item = .function "loop" [] (stepsBlock [.call (program.sketchOf debounce).entry] .done) := by
  simp only [Sketch.items, List.mem_append, List.mem_singleton, List.mem_map] at hitem
  obtain ((((((rfl | rfl) | ⟨pin, -, rfl⟩) | ⟨declaration, -, rfl⟩) | rfl) |
    ⟨function, hfunction, rfl⟩) | hhelper) | rfl := hitem
  · exact .inl rfl
  · exact .inl rfl
  · exact .inl rfl
  · exact .inl rfl
  · exact .inr (.inl rfl)
  · obtain ⟨state, hstate, rfl⟩ := List.mem_map.1 hfunction
    exact .inr (.inr (.inl ⟨state, hstate, rfl⟩))
  · unfold helperItems at hhelper
    split at hhelper
    · rename_i hfault
      exact .inr (.inr (.inr (.inl ⟨hfault, List.mem_singleton.1 hhelper⟩)))
    · cases hhelper
  · exact .inr (.inr (.inr (.inr rfl)))

theorem permits_items (hresolved : program.Resolved) (debounce : Nat) :
    ∀ call ∈ (program.sketchOf debounce).items.flatMap (·.calls), program.Permits call := by
  intro call hcall
  obtain ⟨item, hitem, hcall⟩ := List.mem_flatMap.1 hcall
  obtain hcalls | rfl | ⟨state, hstate, rfl⟩ | ⟨hfault, rfl⟩ | rfl := calling_items hitem
  · rw [hcalls] at hcall
    cases hcall
  · exact permits_setup program debounce call hcall
  · exact permits_function hresolved hstate call hcall
  · exact permits_helper hfault call hcall
  · obtain ⟨initial, hinitial, hdeclared⟩ := hresolved.initial
    rw [show (program.sketchOf debounce).entry = program.table.functionName initial by
      simp [sketchOf, hinitial]] at hcall
    exact permits_call hdeclared call hcall

end Program

/-! ## Names -/

namespace Wiring

/-- The names of some of the items stand in the order of all names. -/
theorem filterMap_sublist_names {part : Item → Option String}
    (hpart : ∀ item name, part item = some name → name = item.name) (items : List Item) :
    (items.filterMap part).Sublist (items.map (·.name)) := by
  induction items with
  | nil => exact .slnil
  | cons item rest ih =>
    cases hitem : part item with
    | none =>
      rw [List.filterMap_cons_none hitem, List.map_cons]
      exact ih.cons _
    | some name =>
      rw [List.filterMap_cons_some hitem, List.map_cons, hpart item name hitem]
      exact ih.cons_cons _

theorem count_eq_one_of_mem {items : List Item} {part : Item → Option String}
    (hpart : ∀ item name, part item = some name → name = item.name)
    (hnodup : (items.map (·.name)).Nodup) {name : String} (hmem : name ∈ items.filterMap part) :
    (items.filterMap part).count name = 1 :=
  List.count_eq_one_of_mem (hnodup.sublist (filterMap_sublist_names hpart items)) hmem

theorem count_fst_eq_one_of_mem {items : List Item} {part : Item → Option (String × Int)}
    (hpart : ∀ item entry, part item = some entry → entry.1 = item.name)
    (hnodup : (items.map (·.name)).Nodup) {name : String}
    (hmem : name ∈ (items.filterMap part).map (·.1)) :
    ((items.filterMap part).map (·.1)).count name = 1 := by
  rw [List.map_filterMap] at hmem ⊢
  refine count_eq_one_of_mem (fun item name hname ↦ ?_) hnodup hmem
  obtain ⟨entry, hentry, rfl⟩ := Option.map_eq_some_iff.1 hname
  exact hpart item entry hentry

end Wiring

namespace Sketch

/-- The names that sketches define by themselves. -/
def fixedNames : List String :=
  ["time", "debounce", faultPinName, "setup", blinkHelper, "loop"]

theorem names_items (sketch : Sketch) :
    sketch.items.map (·.name) =
      (["time", "debounce"] ++ if sketch.faultPin.isSome then [faultPinName] else []) ++
        sketch.pins.map (·.pin) ++ ["setup"] ++ sketch.functions.map (·.name) ++
        ((if sketch.blinks then [blinkHelper] else []) ++ ["loop"]) := by
  have hhelper : (helperItems sketch.blinks).map (·.name) =
      if sketch.blinks then [blinkHelper] else [] := by
    cases sketch.blinks <;> rfl
  have hdefine : (sketch.faultPin.toList.map (Item.define faultPinName)).map (·.name) =
      if sketch.faultPin.isSome then [faultPinName] else [] := by
    cases sketch.faultPin <;> rfl
  simp only [items, List.map_append, hhelper, hdefine, List.map_map, List.append_assoc]
  rfl

theorem fixed_sublist (defines blinks : Bool) :
    ((["time", "debounce"] ++ if defines then [faultPinName] else []) ++ ["setup"] ++
      ((if blinks then [blinkHelper] else []) ++ ["loop"])).Sublist fixedNames := by
  cases defines <;> cases blinks <;> decide +kernel

end Sketch

theorem interleave_perm (first second third names others : List String) :
    (first ++ names ++ second ++ others ++ third).Perm
      ((first ++ second ++ third) ++ (names ++ others)) := by
  refine List.perm_iff_count.2 fun word ↦ ?_
  simp only [List.count_append]
  omega

namespace Program

variable {program : Program} {debounce : Nat}

/-- The symbols of resources and states, in the order of their definitions. -/
def symbols (program : Program) : List String :=
  program.registry.names.map program.table.pinName ++
    program.stateNames.map program.table.functionName

theorem nodup_symbols (hresolved : program.Resolved)
    (hresources : program.registry.Unambiguous) : program.symbols.Nodup := by
  have hlegal := SymbolTable.legal_ofProgram program
  have hpins : (program.registry.names.map program.table.pinName).Nodup :=
    List.Nodup.map_on (fun _ hname _ hother ↦ hlegal.pinName_inj hname hother)
      hresources.names_nodup
  have hfunctions : (program.stateNames.map program.table.functionName).Nodup :=
    List.Nodup.map_on (fun _ hname _ hother ↦ hlegal.functionName_inj hname hother)
      hresolved.states_nodup
  refine hpins.append hfunctions fun symbol hpin hfunction ↦ ?_
  obtain ⟨name, hname, rfl⟩ := List.mem_map.1 hpin
  obtain ⟨other, hother, heq⟩ := List.mem_map.1 hfunction
  exact hlegal.pinName_ne_functionName hname hother heq.symm

theorem not_mem_symbols_of_reserved {word : String} (hword : word ∈ Symbol.reservedWords) :
    word ∉ program.symbols := by
  intro hsymbol
  obtain hpin | hfunction := List.mem_append.1 hsymbol
  · obtain ⟨name, hname, heq⟩ := List.mem_map.1 hpin
    exact pinName_ne_reserved hname hword heq
  · obtain ⟨name, hname, heq⟩ := List.mem_map.1 hfunction
    exact functionName_ne_reserved hname hword heq

/-- A sketch defines some of the fixed names and the symbols of its program. -/
theorem names_items_perm (program : Program) (debounce : Nat) :
    ∃ fixed, fixed.Sublist Sketch.fixedNames ∧
      ((program.sketchOf debounce).items.map (·.name)).Perm (fixed ++ program.symbols) := by
  have hpins : (program.sketchOf debounce).pins.map (·.pin) =
      program.registry.names.map program.table.pinName := by
    simp only [sketchOf, Registry.names, List.map_map]
    rfl
  have hfunctions : (program.sketchOf debounce).functions.map (·.name) =
      program.stateNames.map program.table.functionName := by
    simp only [sketchOf, stateNames, List.map_map]
    rfl
  rw [Sketch.names_items, hpins, hfunctions]
  exact ⟨_, Sketch.fixed_sublist _ _, interleave_perm ..⟩

theorem nodup_names_items (hresolved : program.Resolved)
    (hresources : program.registry.Unambiguous) (debounce : Nat) :
    ((program.sketchOf debounce).items.map (·.name)).Nodup := by
  obtain ⟨fixed, hfixed, hperm⟩ := names_items_perm program debounce
  have hnodup : Sketch.fixedNames.Nodup := by decide +kernel
  have hreserved : ∀ word ∈ Sketch.fixedNames, word ∈ Symbol.reservedWords := by decide +kernel
  exact hperm.nodup_iff.2 ((hnodup.sublist hfixed).append (nodup_symbols hresolved hresources)
    fun word hword ↦ not_mem_symbols_of_reserved (hreserved word (hfixed.subset hword)))

theorem names_items_foreign (program : Program) (debounce : Nat) :
    ∀ name ∈ (program.sketchOf debounce).items.map (·.name), name ∉ boardFunctions := by
  intro name hname hboard
  obtain ⟨fixed, hfixed, hperm⟩ := names_items_perm program debounce
  have hapart : ∀ word ∈ Sketch.fixedNames, word ∉ boardFunctions := by decide +kernel
  have hreserved : ∀ word ∈ boardFunctions, word ∈ Symbol.reservedWords := by decide +kernel
  obtain hname | hsymbol := List.mem_append.1 (hperm.mem_iff.1 hname)
  · exact hapart name (hfixed.subset hname) hboard
  · exact not_mem_symbols_of_reserved (hreserved name hboard) hsymbol

end Program

/-! ## Definitions -/

namespace Sketch

theorem pin_items (sketch : Sketch) :
    sketch.items.filterMap (·.pin?) = sketch.pinValues := by
  have hhelper : (helperItems sketch.blinks).filterMap (·.pin?) = [] := by
    cases sketch.blinks <;> rfl
  rw [filterMap_items, hhelper]
  simp [Item.pin?, PinDeclaration.item, Function.item, pinValues]

theorem function_items (sketch : Sketch) :
    sketch.items.filterMap (·.function?) =
      ["setup"] ++ sketch.functions.map (·.name) ++
        (if sketch.blinks then [blinkHelper] else []) ++ ["loop"] := by
  have hhelper : (helperItems sketch.blinks).filterMap (·.function?) =
      if sketch.blinks then [blinkHelper] else [] := by
    cases sketch.blinks <;> rfl
  rw [filterMap_items, hhelper]
  simp [Item.function?, PinDeclaration.item, Function.item]

end Sketch

namespace Program

variable {program : Program} {debounce : Nat}

theorem mem_function_items {name : String} (hname : name ∈ program.stateNames) :
    program.table.functionName name ∈
      (program.sketchOf debounce).items.filterMap (·.function?) := by
  obtain ⟨state, hstate, rfl⟩ := List.mem_map.1 hname
  have hfunction : program.table.functionName state.name ∈
      (program.sketchOf debounce).functions.map (·.name) :=
    List.mem_map.2 ⟨_, List.mem_map_of_mem hstate, rfl⟩
  simp only [Sketch.function_items, List.mem_append, hfunction, or_true, true_or]

theorem mem_pin_items {name : String} (hname : name ∈ program.registry.names) :
    program.table.pinName name ∈
      ((program.sketchOf debounce).items.filterMap (·.pin?)).map (·.1) := by
  obtain ⟨resource, hresource, rfl⟩ := List.mem_map.1 hname
  rw [Sketch.pin_items, Sketch.pinValues, List.map_map]
  exact List.mem_map.2 ⟨_, List.mem_map_of_mem hresource, rfl⟩

theorem Resolved.mem_constant_items (hresolved : program.Resolved)
    (hfault : program.hasFaultStates = true) :
    faultPinName ∈ ((program.sketchOf debounce).items.filterMap (·.constant?)).map (·.1) := by
  have hgiven := hresolved.faultPin_given (List.any_eq_true.1 hfault)
  obtain ⟨pin, hpin⟩ := Option.ne_none_iff_exists'.1 hgiven
  simp [Sketch.constant_items, sketchOf, hpin]

/-- The ports are those of the resources and the pin of the fault indicator. -/
theorem nodup_ports_items (hresolved : program.Resolved)
    (hresources : program.registry.Unambiguous) (debounce : Nat) :
    (((program.sketchOf debounce).items.filterMap (·.pin?)).map (·.2) ++
      ((program.sketchOf debounce).items.filterMap (·.constant?)).map (·.2)).Nodup := by
  have hports : (program.registry.ports ++ program.faultPin.toList).Nodup := by
    have hpin : program.faultPin.toList.Nodup := by cases program.faultPin <;> simp
    refine hresources.ports_nodup.append hpin fun port hport hgiven ↦ ?_
    exact hresolved.faultPin_free port (by simpa using hgiven) hport
  have hvalues : ((program.sketchOf debounce).items.filterMap (·.pin?)).map (·.2) ++
      ((program.sketchOf debounce).items.filterMap (·.constant?)).map (·.2) =
        (program.registry.ports ++ program.faultPin.toList).map fun port : Nat ↦ (port : Int) := by
    rw [Sketch.pin_items, Sketch.constant_items]
    simp only [Sketch.pinValues, sketchOf, Registry.ports, List.map_append, List.map_map]
    rfl
  rw [hvalues]
  exact hports.map fun _ _ heq ↦ Int.ofNat_inj.1 heq

/-! ## Closed sketches -/

theorem count_called_items (hresolved : program.Resolved)
    (hresources : program.registry.Unambiguous) {call : String × List Atom}
    (hcall : program.Permits call) (hforeign : call.1 ∉ boardFunctions) :
    ((program.sketchOf debounce).items.filterMap (·.function?)).count call.1 = 1 := by
  refine count_eq_one_of_mem Item.name_of_function?
    (nodup_names_items hresolved hresources debounce) ?_
  cases hcall with
  | pin hfunction => exact absurd (List.mem_append_left _ hfunction) hforeign
  | faultPin hfunction => exact absurd (List.mem_append_left _ hfunction) hforeign
  | board hfunction => exact absurd (List.mem_append_right _ hfunction) hforeign
  | state hname => exact mem_function_items hname
  | blink hfault => simp [Sketch.function_items, sketchOf, hfault]

theorem count_pin_items (hresolved : program.Resolved)
    (hresources : program.registry.Unambiguous) {call : String × List Atom}
    (hcall : program.Permits call) (hfunction : call.1 ∈ pinFunctions) :
    ∃ pin, call.2.head? = some (.name pin) ∧
      if pin = faultPinName then
        (((program.sketchOf debounce).items.filterMap (·.constant?)).map (·.1)).count pin = 1
      else (((program.sketchOf debounce).items.filterMap (·.pin?)).map (·.1)).count pin = 1 := by
  have hnodup := nodup_names_items hresolved hresources debounce
  cases hcall with
  | pin _ hname =>
    refine ⟨_, rfl, ?_⟩
    rw [if_neg (pinName_ne_reserved hname (by decide))]
    exact count_fst_eq_one_of_mem Item.name_of_pin? hnodup (mem_pin_items hname)
  | faultPin _ hfault =>
    refine ⟨_, rfl, ?_⟩
    rw [if_pos rfl]
    exact count_fst_eq_one_of_mem Item.name_of_constant? hnodup
      (hresolved.mem_constant_items hfault)
  | board hother =>
    have hboard : ∀ function ∈ ["millis", "delay"], function ∉ pinFunctions := by decide
    exact absurd hfunction (hboard _ hother)
  | state hname =>
    have hreserved : ∀ function ∈ pinFunctions, function ∈ Symbol.reservedWords := by decide
    exact absurd rfl (functionName_ne_reserved hname (hreserved _ hfunction))
  | blink => exact absurd hfunction (show blinkHelper ∉ pinFunctions by decide)

theorem count_blinkHelper_items (program : Program) (debounce : Nat) :
    ((program.sketchOf debounce).items.filterMap (·.function?)).count blinkHelper =
      if program.hasFaultStates then 1 else 0 := by
  have hstates : blinkHelper ∉ (program.sketchOf debounce).functions.map (·.name) := by
    intro hmem
    obtain ⟨function, hfunction, heq⟩ := List.mem_map.1 hmem
    obtain ⟨state, hstate, rfl⟩ := List.mem_map.1 hfunction
    exact functionName_ne_reserved (List.mem_map_of_mem hstate) (by decide) heq
  have hblinks : (program.sketchOf debounce).blinks = program.hasFaultStates := rfl
  rw [Sketch.function_items, hblinks]
  simp only [List.count_append, List.count_eq_zero.2 hstates]
  cases program.hasFaultStates <;> decide +kernel

theorem hasFaultStates_of_permits_blinkHelper {call : String × List Atom}
    (hcall : program.Permits call) (hhelper : call.1 = blinkHelper) :
    program.hasFaultStates = true := by
  have hboard : ∀ function ∈ boardFunctions, function ≠ blinkHelper := by decide
  cases hcall with
  | pin hfunction => exact absurd hhelper (hboard _ (List.mem_append_left _ hfunction))
  | faultPin hfunction => exact absurd hhelper (hboard _ (List.mem_append_left _ hfunction))
  | board hfunction => exact absurd hhelper (hboard _ (List.mem_append_right _ hfunction))
  | state hname => exact absurd hhelper (functionName_ne_reserved hname (by decide))
  | blink hfault => exact hfault

theorem closed_items (hresolved : program.Resolved) (hresources : program.registry.Unambiguous)
    (debounce : Nat) :
    Closed (program.sketchOf debounce).items program.hasFaultStates where
  functions call hcall :=
    count_called_items hresolved hresources (permits_items hresolved debounce call hcall)
  pins call hcall :=
    count_pin_items hresolved hresources (permits_items hresolved debounce call hcall)
  helper := count_blinkHelper_items program debounce
  helper_called call hcall :=
    hasFaultStates_of_permits_blinkHelper (permits_items hresolved debounce call hcall)
  names_nodup := nodup_names_items hresolved hresources debounce
  names_foreign := names_items_foreign program debounce
  ports_nodup := nodup_ports_items hresolved hresources debounce

/-- Read back, what is compiled from a valid program is closed and drives no port twice. -/
theorem compile_closed {report : Report} (debounce : Nat) (hconstructed : program.IsConstructed)
    (hreachable : program.registry.Reachable) (hreport : program.validate = .ok report)
    (herrors : report.errors = []) :
    (program.hasWideCompilation debounce = true →
      (program.compile debounce).1 = .error .numeralTooWide) ∧
    (program.hasWideCompilation debounce = false →
      ∃ (text : String) (items : List Item),
        (program.compile debounce).1 = .ok { source := some text, report := report } ∧
        read text = some items ∧ Closed items program.hasFaultStates) := by
  have hresolved := resolved_of_validate hreport herrors
  have hresources := unambiguous_of_validate hreachable hreport herrors
  obtain ⟨hrefused, hemitted⟩ := compile_reads debounce hconstructed hreport herrors
  refine ⟨hrefused, fun hwide ↦ ?_⟩
  obtain ⟨text, hcompile, hread⟩ := hemitted hwide
  exact ⟨text, _, hcompile, hread, closed_items hresolved hresources debounce⟩

theorem barrier_closed :
    ∃ (text : String) (items : List Item),
      (barrier.compile 50).1 =
        .ok { source := some text, report := .ofDiagnostics barrier.findings } ∧
      read text = some items ∧ Closed items true := by
  have hconstructed : barrier.IsConstructed := ⟨.text "barrier", .integer 13, 1, by decide +kernel⟩
  have hregistry : Registry.fill barrier.registry.resources {} = .ok barrier.registry := by
    decide +kernel
  have hreachable := Registry.Reachable.empty.fill hregistry
  have hreport : barrier.validate = .ok (.ofDiagnostics barrier.findings) := by decide +kernel
  obtain ⟨-, hemitted⟩ := compile_closed 50 hconstructed hreachable hreport (by decide +kernel)
  exact hemitted (by decide +kernel)

/-- Two sensors of one name on one pin, in a registry whose conflicts were struck off. -/
def twins : Program where
  name := "Twins"
  registry := { resources := [⟨"a", .sensor, 2, {}⟩, ⟨"a", .sensor, 2, {}⟩] }
  states := [{ name := "idle", body := .normal [] [] }]
  initial := some "idle"
  initialMarkings := 1

/-- No error is reported without the conflicts, and the pin is declared twice. -/
theorem twins_not_closed :
    twins.IsConstructed ∧ twins.validate = .ok {} ∧
      ∃ (text : String) (items : List Item),
        (twins.compile 200).1 = .ok { source := some text, report := {} } ∧
        read text = some items ∧ items.filterMap (·.pin?) = [("a", 2), ("a", 2)] ∧
        ¬Closed items twins.hasFaultStates := by
  have hconstructed : twins.IsConstructed := ⟨.text "Twins", .nothing, 1, by decide +kernel⟩
  have hreport : twins.validate = .ok {} := by decide +kernel
  have hpins : (twins.sketchOf 200).items.filterMap (·.pin?) = [("a", 2), ("a", 2)] := by
    decide +kernel
  obtain ⟨-, hemitted⟩ := compile_reads 200 hconstructed hreport rfl
  obtain ⟨text, hcompile, hread⟩ := hemitted (by decide +kernel)
  refine ⟨hconstructed, hreport, text, _, hcompile, hread, hpins, fun hclosed ↦ ?_⟩
  have hports := (List.nodup_append.1 hclosed.ports_nodup).1
  rw [hpins] at hports
  simp at hports

end Program

end StateSketch
