import Mathlib.Data.List.Find
import StateSketch.Proofs.SketchNames

/-!
# Programs in another spelling

A spelling gives other names to resources and to states, wherever they are declared or spoken of.
If it keeps different names apart and makes each name into one with the same identifier, then every
name gets the symbol that it had before, since symbols depend on identifiers and on the order of
declaration only.  So nothing in the sketch changes.
-/

namespace StateSketch

/-- Other names for resources and for states. -/
structure Spelling where
  resource : String → String
  state : String → String

/-! ## Respelled parts -/

section Parts

variable (spelling : Spelling)

def Resource.respell (resource : Resource) : Resource :=
  { resource with name := spelling.resource resource.name }

def Action.respell (action : Action) : Action :=
  { action with target := spelling.resource action.target }

def Trigger.respell : Trigger → Trigger
  | .guard condition => .guard (condition.rename spelling.resource)
  | .delay milliseconds => .delay milliseconds

def Transition.respell (transition : Transition) : Transition :=
  { transition with
    trigger := transition.trigger.respell spelling
    target := spelling.state transition.target }

def Body.respell : Body → Body
  | .normal actions transitions =>
    .normal (actions.map (·.respell spelling)) (transitions.map (·.respell spelling))
  | .fault blinks => .fault blinks

def State.respell (state : State) : State :=
  { state with name := spelling.state state.name, body := state.body.respell spelling }

def Registry.respell (registry : Registry) : Registry :=
  { registry with resources := registry.resources.map (·.respell spelling) }

def Program.respell (program : Program) : Program :=
  { program with
    registry := program.registry.respell spelling
    states := program.states.map (·.respell spelling)
    initial := program.initial.map spelling.state }

theorem Trigger.sensors_respell (trigger : Trigger) :
    (trigger.respell spelling).sensors = trigger.sensors.map spelling.resource := by
  cases trigger with
  | guard condition => exact Guard.sensors_rename spelling.resource condition
  | delay milliseconds => rfl

@[simp]
theorem Trigger.isGuard_respell (trigger : Trigger) :
    (trigger.respell spelling).isGuard = trigger.isGuard := by
  cases trigger <;> rfl

@[simp]
theorem Trigger.isWide_respell (trigger : Trigger) :
    (trigger.respell spelling).isWide = trigger.isWide := by
  cases trigger <;> rfl

namespace State

variable (state : State)

@[simp]
theorem actions_respell :
    (state.respell spelling).actions = state.actions.map (·.respell spelling) := by
  unfold actions respell
  cases state.body <;> rfl

@[simp]
theorem transitions_respell :
    (state.respell spelling).transitions = state.transitions.map (·.respell spelling) := by
  unfold transitions respell
  cases state.body <;> rfl

@[simp]
theorem isFault_respell : (state.respell spelling).isFault = state.isFault := by
  unfold isFault blinks? respell
  cases state.body <;> rfl

@[simp]
theorem isWide_respell : (state.respell spelling).isWide = state.isWide := by
  unfold isWide respell
  cases state.body with
  | fault blinks => rfl
  | normal actions transitions =>
    simp [Body.respell, Transition.respell, Function.comp_def]

end State

@[simp]
theorem Registry.names_respell (registry : Registry) :
    (registry.respell spelling).names = registry.names.map spelling.resource := by
  simp [names, Registry.respell, Resource.respell]

@[simp]
theorem Registry.ports_respell (registry : Registry) :
    (registry.respell spelling).ports = registry.ports := by
  simp [ports, Registry.respell, Resource.respell]

@[simp]
theorem Program.stateNames_respell (program : Program) :
    (program.respell spelling).stateNames = program.stateNames.map spelling.state := by
  simp [stateNames, Program.respell, State.respell]

@[simp]
theorem Program.hasFaultStates_respell (program : Program) :
    (program.respell spelling).hasFaultStates = program.hasFaultStates := by
  simp [hasFaultStates, Program.respell, Function.comp_def]

end Parts

/-- Different names stay different, and each name is made into one with the same identifier.  Where
parts are to be made with the new names, these must not be empty either, which no part accepts;
what a program without errors is compiled to does not depend on that. -/
structure KeepsIdentifiers (spell : String → String) (names : List String) : Prop where
  injective : ∀ name ∈ names, ∀ other ∈ names, spell name = spell other → name = other
  identifier : ∀ name ∈ names, Symbol.identifier (spell name) = Symbol.identifier name

theorem KeepsIdentifiers.beq_eq {spell : String → String} {names : List String}
    (hkeeps : KeepsIdentifiers spell names) {name other : String} (hname : name ∈ names)
    (hother : other ∈ names) : (spell name == spell other) = (name == other) := by
  rw [Bool.eq_iff_iff, beq_iff_eq, beq_iff_eq]
  constructor
  · exact hkeeps.injective name hname other hother
  · exact congrArg spell

/-- A spelling that keeps the identifiers of all names that a program declares. -/
structure Spelling.Fits (spelling : Spelling) (program : Program) : Prop where
  resources : KeepsIdentifiers spelling.resource program.registry.names
  states : KeepsIdentifiers spelling.state program.stateNames

/-! ## Symbols -/

namespace Symbol

/-- The entries of a table with other names. -/
def respellKeys (spell : String → String) (entries : List (String × String)) :
    List (String × String) :=
  entries.map fun entry ↦ (spell entry.1, entry.2)

variable {spell : String → String} {names : List String}

theorem lookup_respellKeys (hkeeps : KeepsIdentifiers spell names)
    {entries : List (String × String)} (hkeys : ∀ entry ∈ entries, entry.1 ∈ names)
    {name : String} (hname : name ∈ names) :
    (respellKeys spell entries).lookup (spell name) = entries.lookup name := by
  induction entries with
  | nil => rfl
  | cons entry rest ih =>
    have hentry : entry.1 ∈ names := hkeys entry List.mem_cons_self
    have hrest := ih fun other h ↦ hkeys other (List.mem_cons_of_mem _ h)
    unfold respellKeys at hrest ⊢
    rw [List.map_cons, List.lookup_cons, List.lookup_cons, hkeeps.beq_eq hname hentry, hrest]

namespace Assignment

variable {assignment : Assignment}

def respellKeys (spell : String → String) (assignment : Assignment) : Assignment :=
  { assignment with symbols := Symbol.respellKeys spell assignment.symbols }

variable (stem : String) (reserved : List String)

theorem mem_names_of_add (hkeys : ∀ entry ∈ assignment.symbols, entry.1 ∈ names) {name : String}
    (hname : name ∈ names) :
    ∀ entry ∈ (assignment.add stem reserved name).symbols, entry.1 ∈ names := by
  unfold add
  split
  · exact hkeys
  · exact List.forall_mem_append.2 ⟨hkeys, List.forall_mem_singleton.2 hname⟩

/-- A name gets its symbol by its identifier. -/
theorem add_respellKeys (hkeeps : KeepsIdentifiers spell names)
    (hkeys : ∀ entry ∈ assignment.symbols, entry.1 ∈ names) {name : String}
    (hname : name ∈ names) :
    (assignment.respellKeys spell).add stem reserved (spell name) =
      (assignment.add stem reserved name).respellKeys spell := by
  have hmangle : mangle (spell name) stem assignment.used reserved =
      mangle name stem assignment.used reserved := by
    unfold mangle
    rw [hkeeps.identifier name hname]
  have hlookup : (assignment.respellKeys spell).symbols.lookup (spell name) =
      assignment.symbols.lookup name :=
    lookup_respellKeys hkeeps hkeys hname
  unfold add
  rw [hlookup]
  split
  · rfl
  · simp [respellKeys, Symbol.respellKeys, hmangle]

theorem addAll_respellKeys (assignment : Assignment) (hkeeps : KeepsIdentifiers spell names)
    (hkeys : ∀ entry ∈ assignment.symbols, entry.1 ∈ names) {more : List String}
    (hmore : ∀ name ∈ more, name ∈ names) :
    (assignment.respellKeys spell).addAll stem reserved (more.map spell) =
      (assignment.addAll stem reserved more).respellKeys spell := by
  induction more generalizing assignment with
  | nil => rfl
  | cons name more ih =>
    obtain ⟨hname, hmore⟩ := List.forall_mem_cons.1 hmore
    unfold addAll at ih ⊢
    rw [List.map_cons, List.foldl_cons, List.foldl_cons, add_respellKeys _ _ hkeeps hkeys hname]
    exact ih _ (mem_names_of_add stem reserved hkeys hname) hmore

end Assignment

end Symbol

namespace SymbolTable

open StateSketch.Symbol

variable {spelling : Spelling} {program : Program}

theorem ofNames_map {resources states : List String} {pin function : String → String}
    (hresources : KeepsIdentifiers pin resources) (hstates : KeepsIdentifiers function states) :
    ofNames (resources.map pin) (states.map function) =
      { resources := respellKeys pin (ofNames resources states).resources
        states := respellKeys function (ofNames resources states).states } := by
  have hpins : Assignment.addAll "" reservedWords (resources.map pin) {} =
      (Assignment.addAll "" reservedWords resources {}).respellKeys pin :=
    Assignment.addAll_respellKeys "" reservedWords {} hresources (List.forall_mem_nil _) fun _ h ↦ h
  have hfunctions (used : List String) :
      Assignment.addAll stateStem [] (states.map function) { used := used } =
        (Assignment.addAll stateStem [] states { used := used }).respellKeys function :=
    Assignment.addAll_respellKeys stateStem [] { used := used } hstates (List.forall_mem_nil _)
      fun _ h ↦ h
  unfold ofNames
  rw [hpins]
  dsimp only [Assignment.respellKeys]
  rw [hfunctions]
  rfl

/-- A table in which every name has the symbol that its other spelling has in another table. -/
structure AgreesAlong (spelling : Spelling) (program : Program) (table respelled : SymbolTable) :
    Prop where
  pinName : ∀ name ∈ program.registry.names,
    respelled.pinName (spelling.resource name) = table.pinName name
  functionName : ∀ name ∈ program.stateNames,
    respelled.functionName (spelling.state name) = table.functionName name

theorem agreesAlong_of_fits (hfits : spelling.Fits program) :
    AgreesAlong spelling program program.table (program.respell spelling).table := by
  have hlegal := legal_ofProgram program
  have htable : (program.respell spelling).table =
      { resources := respellKeys spelling.resource program.table.resources
        states := respellKeys spelling.state program.table.states } := by
    have hnames := ofNames_map hfits.resources hfits.states
    rw [← Registry.names_respell, ← Program.stateNames_respell] at hnames
    exact hnames
  constructor
  · intro name hname
    have hkeys : ∀ entry ∈ program.table.resources, entry.1 ∈ program.registry.names :=
      fun entry hentry ↦ (hlegal.resource_named entry.1).1
        (List.lookup_isSome_iff.2 ⟨entry, hentry, beq_self_eq_true _⟩)
    rw [pinName, pinName, htable]
    exact congrArg (·.getD "") (lookup_respellKeys hfits.resources hkeys hname)
  · intro name hname
    have hkeys : ∀ entry ∈ program.table.states, entry.1 ∈ program.stateNames :=
      fun entry hentry ↦ (hlegal.state_named entry.1).1
        (List.lookup_isSome_iff.2 ⟨entry, hentry, beq_self_eq_true _⟩)
    rw [functionName, functionName, htable]
    exact congrArg (·.getD "") (lookup_respellKeys hfits.states hkeys hname)

/-! ## The sketch -/

namespace AgreesAlong

variable {table respelled : SymbolTable}

/-- What is said of a resource by its pin name and otherwise without names. -/
theorem map_resources_eq {α : Type} (hagrees : AgreesAlong spelling program table respelled)
    (part : String → Resource → α)
    (hpart : ∀ pin resource, part pin (resource.respell spelling) = part pin resource) :
    (program.respell spelling).registry.resources.map
        (fun resource ↦ part (respelled.pinName resource.name) resource) =
      program.registry.resources.map fun resource ↦ part (table.pinName resource.name) resource := by
  change (program.registry.resources.map (·.respell spelling)).map _ = _
  rw [List.map_map]
  apply List.map_congr_left
  intro resource hresource
  have hpin : respelled.pinName (resource.respell spelling).name = table.pinName resource.name :=
    hagrees.pinName resource.name (List.mem_map_of_mem hresource)
  dsimp only [Function.comp_apply]
  rw [hpin, hpart]

theorem rename_eq (hagrees : AgreesAlong spelling program table respelled) {condition : Guard}
    (hsensors : ∀ sensor ∈ condition.sensors, sensor ∈ program.registry.names) :
    (condition.rename spelling.resource).rename respelled.pinName =
      condition.rename table.pinName := by
  induction condition with
  | reads sensor level =>
    have hsensor := hagrees.pinName sensor (hsensors sensor (by simp [Guard.sensors]))
    simp only [Guard.rename, hsensor]
  | both left right ihleft ihright =>
    have hleft := ihleft fun sensor h ↦ hsensors sensor (by simp [Guard.sensors, h])
    have hright := ihright fun sensor h ↦ hsensors sensor (by simp [Guard.sensors, h])
    simp only [Guard.rename, hleft, hright]
  | either left right ihleft ihright =>
    have hleft := ihleft fun sensor h ↦ hsensors sensor (by simp [Guard.sensors, h])
    have hright := ihright fun sensor h ↦ hsensors sensor (by simp [Guard.sensors, h])
    simp only [Guard.rename, hleft, hright]

theorem branchOf_eq (hagrees : AgreesAlong spelling program table respelled)
    {transition : Transition}
    (hsensors : ∀ sensor ∈ transition.trigger.sensors, sensor ∈ program.registry.names)
    (htarget : transition.target ∈ program.stateNames) :
    respelled.branchOf (transition.respell spelling) = table.branchOf transition := by
  have htest : respelled.testOf (transition.trigger.respell spelling) =
      table.testOf transition.trigger := by
    cases htrigger : transition.trigger with
    | guard condition =>
      rw [htrigger] at hsensors
      exact congrArg Test.settled (hagrees.rename_eq hsensors)
    | delay milliseconds => rfl
  unfold branchOf Transition.respell
  rw [htest, hagrees.functionName transition.target htarget]

theorem dispatchOf_eq (hagrees : AgreesAlong spelling program table respelled) {state : State}
    (hname : state.name ∈ program.stateNames) (hstate : program.StateResolved state) :
    respelled.dispatchOf (state.respell spelling) = table.dispatchOf state := by
  have hself : respelled.functionName (state.respell spelling).name =
      table.functionName state.name :=
    hagrees.functionName state.name hname
  have hsample : sampleOf (state.respell spelling) = sampleOf state := by
    unfold sampleOf
    simp [Function.comp_def, Transition.respell]
  have hbranches : (state.respell spelling).transitions.map respelled.branchOf =
      state.transitions.map table.branchOf := by
    rw [State.transitions_respell, List.map_map]
    apply List.map_congr_left
    intro edge hedge
    exact hagrees.branchOf_eq (hstate.sensors edge hedge) (hstate.targets edge hedge)
  unfold dispatchOf
  rw [hself, hsample]
  revert hbranches
  rw [State.transitions_respell]
  cases state.transitions with
  | nil => exact fun _ ↦ rfl
  | cons first rest =>
    intro hbranches
    simp only [List.map_cons, List.cons.injEq] at hbranches ⊢
    rw [hbranches.1, hbranches.2]

theorem functionOf_eq (hagrees : AgreesAlong spelling program table respelled) {state : State}
    (hname : state.name ∈ program.stateNames) (hstate : program.StateResolved state) :
    respelled.functionOf (state.respell spelling) = table.functionOf state := by
  have hself : respelled.functionName (state.respell spelling).name =
      table.functionName state.name :=
    hagrees.functionName state.name hname
  have hdispatch := hagrees.dispatchOf_eq hname hstate
  have hwrites : (state.respell spelling).actions.map respelled.writeOf =
      state.actions.map table.writeOf := by
    rw [State.actions_respell, List.map_map]
    apply List.map_congr_left
    intro action haction
    have hpin := hagrees.pinName action.target (hstate.actions action haction)
    exact congrArg (Step.write · action.level) hpin
  unfold functionOf
  rw [hself, hdispatch]
  congr 1
  revert hwrites
  unfold State.actions State.respell
  cases state.body with
  | fault blinks => exact fun _ ↦ rfl
  | normal actions transitions =>
    intro hwrites
    exact congrArg (fun writes ↦ writes.map Statement.step ++ table.dispatchOf state) hwrites

end AgreesAlong

end SymbolTable

namespace Program

variable {spelling : Spelling} {program : Program}

theorem initial_respell {initial : String} (hinitial : program.initial = some initial) :
    (program.respell spelling).initial = some (spelling.state initial) :=
  congrArg (Option.map spelling.state) hinitial

theorem StateResolved.respell {state : State} (hstate : program.StateResolved state)
    (spelling : Spelling) :
    (program.respell spelling).StateResolved (state.respell spelling) := by
  have hregistry : (program.respell spelling).registry.names =
      program.registry.names.map spelling.resource :=
    Registry.names_respell spelling program.registry
  constructor
  · rw [State.actions_respell, hregistry, List.forall_mem_map]
    intro action haction
    exact List.mem_map_of_mem (hstate.actions action haction)
  · rw [State.transitions_respell, hregistry, List.forall_mem_map]
    intro edge hedge
    have hsensors : (edge.respell spelling).trigger.sensors =
        edge.trigger.sensors.map spelling.resource :=
      Trigger.sensors_respell spelling edge.trigger
    rw [hsensors, List.forall_mem_map]
    intro sensor hsensor
    exact List.mem_map_of_mem (hstate.sensors edge hedge sensor hsensor)
  · rw [State.transitions_respell, stateNames_respell, List.forall_mem_map]
    intro edge hedge
    exact List.mem_map_of_mem (hstate.targets edge hedge)

theorem Resolved.respell (hresolved : program.Resolved) (hfits : spelling.Fits program) :
    (program.respell spelling).Resolved := by
  have hports : (program.respell spelling).registry.ports = program.registry.ports :=
    Registry.ports_respell spelling program.registry
  obtain ⟨initial, hinitial, hdeclared⟩ := hresolved.initial
  constructor
  · rw [stateNames_respell]
    exact hresolved.states_nodup.map_on hfits.states.injective
  · intro state hstate
    obtain ⟨before, hbefore, rfl⟩ := List.mem_map.1 hstate
    exact (hresolved.states before hbefore).respell spelling
  · refine ⟨spelling.state initial, initial_respell hinitial, ?_⟩
    rw [stateNames_respell]
    exact List.mem_map_of_mem hdeclared
  · intro hfault
    apply hresolved.faultPin_given
    obtain ⟨state, hstate, hfault⟩ := hfault
    obtain ⟨before, hbefore, rfl⟩ := List.mem_map.1 hstate
    exact ⟨before, hbefore, by rwa [State.isFault_respell] at hfault⟩
  · rw [hports]
    exact hresolved.faultPin_free

theorem sketchOf_respell (hresolved : program.Resolved) (hfits : spelling.Fits program)
    (debounce : Nat) :
    (program.respell spelling).sketchOf debounce = program.sketchOf debounce := by
  have hagrees := SymbolTable.agreesAlong_of_fits hfits
  obtain ⟨initial, hinitial, hdeclared⟩ := hresolved.initial
  have hpins := hagrees.map_resources_eq (fun pin resource ↦ PinDeclaration.mk pin resource.port)
    fun _ _ ↦ rfl
  have hsetup := hagrees.map_resources_eq (fun pin resource ↦ Step.configure pin resource.pinMode)
    fun _ _ ↦ rfl
  have hfunctions : (program.respell spelling).states.map
        (program.respell spelling).table.functionOf =
      program.states.map program.table.functionOf := by
    change (program.states.map (·.respell spelling)).map _ = _
    rw [List.map_map]
    apply List.map_congr_left
    intro state hstate
    exact hagrees.functionOf_eq (List.mem_map_of_mem hstate) (hresolved.states state hstate)
  have hentry : (program.respell spelling).table.functionName
        ((program.respell spelling).initial.getD "") =
      program.table.functionName (program.initial.getD "") := by
    rw [initial_respell hinitial, hinitial]
    exact hagrees.functionName initial hdeclared
  unfold sketchOf SymbolTable.declarationOf SymbolTable.configurationOf
  rw [hpins, hsetup, hfunctions, hentry, hasFaultStates_respell]
  rfl

/-! ## Compilation -/

theorem errors_respell_eq_nil (hfits : spelling.Fits program)
    (herrors : (Report.ofDiagnostics program.findings).errors = []) :
    (Report.ofDiagnostics (program.respell spelling).findings).errors = [] := by
  obtain ⟨hconflicts, hresolved⟩ := (errors_ofDiagnostics_findings_eq_nil_iff program).1 herrors
  rw [errors_ofDiagnostics_findings_eq_nil_iff]
  exact ⟨hconflicts, hresolved.respell hfits⟩

theorem state?_respell (hfits : spelling.Fits program) {name : String}
    (hname : name ∈ program.stateNames) :
    (program.respell spelling).state? (spelling.state name) =
      (program.state? name).map (·.respell spelling) := by
  have hsame : ∀ state ∈ program.states.reverse,
      (spelling.state state.name == spelling.state name) = (state.name == name) := by
    intro state hstate
    have hdeclared : state.name ∈ program.stateNames :=
      List.mem_map_of_mem (List.mem_reverse.1 hstate)
    exact hfits.states.beq_eq hdeclared hname
  calc
    (program.respell spelling).state? (spelling.state name) =
        (program.states.reverse.find? fun state ↦
          spelling.state state.name == spelling.state name).map (·.respell spelling) := by
      unfold state? Program.respell
      rw [← List.map_reverse, List.find?_map]
      rfl
    _ = (program.state? name).map (·.respell spelling) := by
      rw [List.find?_congr hsame]
      rfl

/-- The warnings have the same lines under all names. -/
theorem any_hasWideLine_warnings_respell (hresolved : program.Resolved)
    (hfits : spelling.Fits program) :
    (Report.ofDiagnostics (program.respell spelling).findings).warnings.any (·.hasWideLine) =
      (Report.ofDiagnostics program.findings).warnings.any (·.hasWideLine) := by
  obtain ⟨initial, hinitial, hdeclared⟩ := hresolved.initial
  have hline : (program.respell spelling).markingLine = program.markingLine := by
    unfold markingLine initialState?
    rw [initial_respell hinitial, hinitial, Option.bind_some, Option.bind_some,
      state?_respell hfits hdeclared]
    cases program.state? initial <;> rfl
  have hmarking : (program.respell spelling).markingFindings.any (·.hasWideLine) =
      program.markingFindings.any (·.hasWideLine) := by
    have hmarked : (program.respell spelling).hasSeveralMarkings = program.hasSeveralMarkings := rfl
    unfold markingFindings
    rw [hmarked, hline]
    cases program.hasSeveralMarkings <;> rfl
  rw [warnings_ofDiagnostics_findings, warnings_ofDiagnostics_findings, List.any_append,
    List.any_append, List.any_append, List.any_append, hmarking]
  rfl

theorem hasWideCompilation_respell (hfits : spelling.Fits program) (debounce : Nat)
    (herrors : (Report.ofDiagnostics program.findings).errors = []) :
    (program.respell spelling).hasWideCompilation debounce =
      program.hasWideCompilation debounce := by
  have hresolved := ((errors_ofDiagnostics_findings_eq_nil_iff program).1 herrors).2
  have hnumeral : (program.respell spelling).hasWideNumeral debounce =
      program.hasWideNumeral debounce := by
    unfold hasWideNumeral
    simp [Program.respell, Registry.respell, Resource.respell, Function.comp_def]
  have hmarkings : (program.respell spelling).hasWideMarkings = program.hasWideMarkings := rfl
  unfold hasWideCompilation hasWideReport
  rw [hnumeral, hmarkings, any_hasWideLine_warnings_respell hresolved hfits, herrors,
    errors_respell_eq_nil hfits herrors, hresolved.hasWideFaultPin_eq_false,
    (hresolved.respell hfits).hasWideFaultPin_eq_false]

end Program

/-! ## Registries filled by calls -/

namespace Registry

theorem resources_of_fill {resources : List Resource} {before after : Registry}
    (hfill : fill resources before = .ok after) :
    after.resources = before.resources ++ resources := by
  induction resources generalizing before with
  | nil =>
    obtain rfl := Except.ok.inj hfill
    exact (List.append_nil _).symm
  | cons resource rest ih =>
    unfold fill at hfill
    split at hfill
    · rename_i next hregister
      rw [ih hfill, register_eq_ok hregister, resources_insert, List.append_assoc]
      rfl
    · cases hfill

/-- Without conflicts every call returns. -/
theorem fill_of_unambiguous {resources : List Resource} {before : Registry}
    (hall : Unambiguous { resources := before.resources ++ resources }) :
    fill resources before = .ok { before with resources := before.resources ++ resources } := by
  induction resources generalizing before with
  | nil =>
    rw [fill, List.append_nil]
  | cons resource rest ih =>
    have hnames : (before.names ++ resource.name :: rest.map (·.name)).Nodup := by
      simpa [names] using hall.names_nodup
    have hports : (before.ports ++ resource.port :: rest.map (·.port)).Nodup := by
      simpa [ports] using hall.ports_nodup
    have hname : resource.name ∉ before.names := by
      intro hmem
      exact (List.disjoint_of_nodup_append hnames) hmem List.mem_cons_self
    have hport : resource.port ∉ before.ports := by
      intro hmem
      exact (List.disjoint_of_nodup_append hports) hmem List.mem_cons_self
    have hregister : before.register resource =
        (.ok (), { before with resources := before.resources ++ [resource] }) := by
      have hconflicts := (conflictsOf_eq_nil_iff before resource).2 ⟨hname, hport⟩
      rw [register_of_unused hport, insert, hconflicts, List.append_nil]
    have hrest : (before.resources ++ [resource]) ++ rest = before.resources ++ resource :: rest :=
      List.append_assoc _ _ _
    rw [fill, hregister]
    dsimp only
    rw [ih (by rwa [hrest]), hrest]

/-- The respelled resources can be declared as well, without any conflict. -/
theorem fill_respell {registry : Registry} {spelling : Spelling} {resources : List Resource}
    (hkeeps : KeepsIdentifiers spelling.resource registry.names)
    (hfill : fill resources {} = .ok registry) (hconflicts : registry.conflicts = []) :
    fill (resources.map (·.respell spelling)) {} = .ok (registry.respell spelling) := by
  have hresources : registry.resources = resources := resources_of_fill hfill
  have hunambiguous := (Reachable.empty.fill hfill).unambiguous hconflicts
  have hrespelled : (registry.respell spelling).Unambiguous := by
    constructor
    · rw [names_respell]
      exact hunambiguous.names_nodup.map_on hkeeps.injective
    · rw [ports_respell]
      exact hunambiguous.ports_nodup
  have hsame : registry.respell spelling = { resources := resources.map (·.respell spelling) } := by
    unfold respell
    rw [hresources, hconflicts]
  rw [hsame] at hrespelled ⊢
  exact fill_of_unambiguous hrespelled

end Registry

namespace Program

variable {spelling : Spelling} {program : Program}

/-- In another spelling a program without errors has none, and it is compiled to the same text; what
cannot be shown in one spelling cannot be shown in the other. -/
theorem compile_respell {report : Report} (debounce : Nat) (hfits : spelling.Fits program)
    (hreport : program.validate = .ok report) (herrors : report.errors = []) :
    (∃ other, (program.respell spelling).validate = .ok other ∧ other.errors = []) ∧
    (program.hasWideCompilation debounce = true →
      (program.compile debounce).1 = .error .numeralTooWide ∧
        ((program.respell spelling).compile debounce).1 = .error .numeralTooWide) ∧
    (program.hasWideCompilation debounce = false →
      ∃ text, (program.compile debounce).1.map (·.source) = .ok (some text) ∧
        ((program.respell spelling).compile debounce).1.map (·.source) = .ok (some text)) ∧
    ∀ resources, Registry.fill resources {} = .ok program.registry →
      Registry.fill (resources.map (·.respell spelling)) {} =
        .ok (program.respell spelling).registry := by
  have hresolved := resolved_of_validate hreport herrors
  obtain ⟨-, hmarkings, rfl⟩ := (validate_eq_ok_iff program report).1 hreport
  have hother : (program.respell spelling).validate =
      .ok (Report.ofDiagnostics (program.respell spelling).findings) :=
    (validate_eq_ok_iff _ _).2
      ⟨(hresolved.respell hfits).hasWideFaultPin_eq_false, hmarkings, rfl⟩
  have hotherErrors := errors_respell_eq_nil hfits herrors
  have hcompile := compile_eq_of_validate hreport herrors debounce
  have hotherCompile := compile_eq_of_validate hother hotherErrors debounce
  rw [hasWideCompilation_respell hfits debounce herrors, sketchOf_respell hresolved hfits]
    at hotherCompile
  refine ⟨⟨_, hother, hotherErrors⟩, ?_, ?_, ?_⟩
  · intro hwide
    rw [hcompile, hotherCompile, hwide]
    exact ⟨rfl, rfl⟩
  · intro hwide
    rw [hcompile, hotherCompile, hwide]
    exact ⟨_, rfl, rfl⟩
  · intro resources hfill
    have hreachable := Registry.Reachable.empty.fill hfill
    have hconflicts := ((errors_ofDiagnostics_findings_eq_nil_iff program).1 herrors).1
    rw [hreachable.filter_isError] at hconflicts
    exact Registry.fill_respell hfits.resources hfill hconflicts

end Program

/-- Writes a blank for each hyphen of a name and a hyphen for each blank. -/
def swapMarks (name : String) : String :=
  String.ofList (name.toList.map fun c ↦ if c = '-' then ' ' else if c = ' ' then '-' else c)

def swappedMarks : Spelling where
  resource := swapMarks
  state := swapMarks

/-- Two lanterns and two states that differ in a mark only, so that the second one of each pair gets
a number. -/
def lanterns : Program where
  name := "Lanterns"
  registry := {
    resources := [
      { name := "lamp-1", kind := .actuator, port := 4 },
      { name := "lamp 1", kind := .actuator, port := 5 },
      { name := "wall switch", kind := .sensor, port := 2 }] }
  states := [
    { name := "all off"
      body := .normal
        [{ target := "lamp-1", level := .low }, { target := "lamp 1", level := .low }]
        [{ trigger := .guard (.reads "wall switch" .high), target := "all-off" }] },
    { name := "all-off"
      body := .normal [{ target := "lamp 1", level := .high }]
        [{ trigger := .guard (.either (.reads "wall switch" .low) (.reads "lamp-1" .high))
           target := "all off" },
          { trigger := .delay 900, target := "all-off" }] }]
  initial := some "all off"
  initialMarkings := 1

/-- The lanterns with a fault pin that cannot be shown. -/
def widePinLanterns : Program :=
  { lanterns with faultPin := some Text.leastWide }

namespace Program

theorem lanterns_swapped :
    swappedMarks.Fits lanterns ∧
      (lanterns.respell swappedMarks).registry.names = ["lamp 1", "lamp-1", "wall-switch"] ∧
      (∃ other, (lanterns.respell swappedMarks).validate = .ok other ∧ other.errors = []) ∧
      ∃ text, (lanterns.compile 200).1.map (·.source) = .ok (some text) ∧
        ((lanterns.respell swappedMarks).compile 200).1.map (·.source) = .ok (some text) := by
  have hfits : swappedMarks.Fits lanterns :=
    ⟨⟨by decide +kernel, by decide +kernel⟩, by decide +kernel, by decide +kernel⟩
  have hreport : lanterns.validate = .ok (Report.ofDiagnostics lanterns.findings) := by
    decide +kernel
  obtain ⟨hvalid, -, htext, -⟩ := compile_respell 200 hfits hreport (by decide +kernel)
  exact ⟨hfits, by decide +kernel, hvalid, htext (by decide +kernel)⟩

/-- A program without errors need not be compiled to any text, in whatever spelling. -/
theorem widePinLanterns_unshown :
    swappedMarks.Fits widePinLanterns ∧
      (∀ name ∈ widePinLanterns.registry.names ++ widePinLanterns.stateNames,
        swapMarks name ≠ "") ∧
      (∃ report, widePinLanterns.validate = .ok report ∧ report.errors = []) ∧
      (widePinLanterns.compile 200).1 = .error .numeralTooWide ∧
      ((widePinLanterns.respell swappedMarks).compile 200).1 = .error .numeralTooWide := by
  have hfits : swappedMarks.Fits widePinLanterns :=
    ⟨⟨by decide +kernel, by decide +kernel⟩, by decide +kernel, by decide +kernel⟩
  have hreport : widePinLanterns.validate =
      .ok (Report.ofDiagnostics widePinLanterns.findings) := by
    decide +kernel
  have herrors : (Report.ofDiagnostics widePinLanterns.findings).errors = [] := by
    decide +kernel
  have hwide : widePinLanterns.hasWideCompilation 200 = true := by
    decide +kernel
  have hcompile := compile_eq widePinLanterns 200
  have hrespelled := compile_eq (widePinLanterns.respell swappedMarks) 200
  rw [hasWideCompilation_respell hfits 200 herrors, hwide] at hrespelled
  rw [hwide] at hcompile
  exact ⟨hfits, by decide +kernel, ⟨_, hreport, herrors⟩, hcompile, hrespelled⟩

end Program

end StateSketch
