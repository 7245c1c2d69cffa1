import Mathlib.Data.List.Nodup
import StateSketch.Construction
import StateSketch.Validation

/-!
# What validation decides

A registry that was filled call by call records no conflict exactly if names and ports are pairwise
different.  Together with the checks of states, of the initial state and of the fault pin this gives
the condition under which a program is reported without errors.  The report itself can be refused,
because a count with too many digits cannot be shown; the count of markings is the only one that
matters for a program without errors.
-/

namespace StateSketch

theorem Diagnostic.isError_of_code {diagnostic : Diagnostic} {codes : List DiagnosticCode}
    (hcode : diagnostic.code ∈ codes) (hcodes : ∀ code ∈ codes, code.isAdvisory = false) :
    diagnostic.isError = true := by
  rw [isError, hcodes _ hcode, Bool.not_false]

/-! ## Registries filled by calls -/

namespace Registry

def names (registry : Registry) : List String :=
  registry.resources.map (·.name)

def ports (registry : Registry) : List Nat :=
  registry.resources.map (·.port)

@[simp]
theorem contains_eq_true_iff (registry : Registry) (name : String) :
    registry.contains name = true ↔ name ∈ registry.names := by
  simp [contains, names]

@[simp]
theorem ownerOfPort?_eq_none_iff (registry : Registry) (port : Nat) :
    registry.ownerOfPort? port = none ↔ port ∉ registry.ports := by
  simp [ownerOfPort?, ports]

/-- A port that is not in use can be declared, however many digits it has. -/
theorem register_of_unused {registry : Registry} {resource : Resource}
    (hport : resource.port ∉ registry.ports) :
    registry.register resource = (.ok (), registry.insert resource) := by
  have htellable : registry.isTellable resource = true := by
    rw [isTellable, (ownerOfPort?_eq_none_iff registry resource.port).2 hport]
    rfl
  rw [register, if_pos htellable]

theorem names_register (registry : Registry) (resource : Resource) :
    (registry.register resource).2.names = registry.names ++ [resource.name] ∨
      (registry.register resource).2.names = registry.names := by
  unfold register
  split
  · exact .inl (by simp [names])
  · exact .inr rfl

/-- What calls of `register` can make of an empty registry; a refused call may leave a trace. -/
inductive Reachable : Registry → Prop where
  | empty : Reachable {}
  | register {registry : Registry} (before : Reachable registry) (resource : Resource) :
    Reachable (registry.register resource).2

/-- Registers resources one after the other; the first refused call ends it. -/
def fill : List Resource → Registry → Except Fault Registry
  | [], registry => .ok registry
  | resource :: rest, registry =>
    match registry.register resource with
    | (.ok (), next) => fill rest next
    | (.error fault, _) => .error fault

/-- The name and the port of each resource are its own. -/
structure Unambiguous (registry : Registry) : Prop where
  names_nodup : registry.names.Nodup
  ports_nodup : registry.ports.Nodup

theorem conflictsOf_eq_nil_iff (registry : Registry) (resource : Resource) :
    registry.conflictsOf resource = [] ↔
      resource.name ∉ registry.names ∧ resource.port ∉ registry.ports := by
  have hname : registry.nameConflicts resource = [] ↔ resource.name ∉ registry.names := by
    unfold nameConflicts
    split <;> simp_all
  have hport : registry.portConflicts resource = [] ↔ resource.port ∉ registry.ports := by
    simp [portConflicts, ports]
  rw [conflictsOf, List.append_eq_nil_iff, hname, hport]

theorem code_of_mem_conflictsOf {registry : Registry} {resource : Resource}
    {conflict : Diagnostic} (hconflict : conflict ∈ registry.conflictsOf resource) :
    conflict.code ∈ [.duplicateResourceName, .duplicatePort] := by
  obtain ⟨-, rfl⟩ | ⟨earlier, -, -, rfl⟩ := mem_conflictsOf_iff.1 hconflict
  · exact List.mem_cons_self
  · exact List.mem_cons_of_mem _ List.mem_cons_self

theorem unambiguous_insert_iff (registry : Registry) (resource : Resource) :
    (registry.insert resource).Unambiguous ↔
      registry.Unambiguous ∧ registry.conflictsOf resource = [] := by
  rw [conflictsOf_eq_nil_iff]
  constructor
  · rintro ⟨hnames, hports⟩
    simp only [names, ports, resources_insert, List.map_append, List.map_cons, List.map_nil,
      List.nodup_append, List.nodup_singleton, List.mem_singleton] at hnames hports
    refine ⟨⟨hnames.1, hports.1⟩, fun h ↦ ?_, fun h ↦ ?_⟩
    · exact hnames.2.2 _ h _ rfl rfl
    · exact hports.2.2 _ h _ rfl rfl
  · rintro ⟨⟨hnames, hports⟩, hname, hport⟩
    constructor
    · simp only [names, resources_insert, List.map_append, List.map_cons, List.map_nil]
      exact hnames.append (List.nodup_singleton _) (List.disjoint_singleton.2 hname)
    · simp only [ports, resources_insert, List.map_append, List.map_cons, List.map_nil]
      exact hports.append (List.nodup_singleton _) (List.disjoint_singleton.2 hport)

/-- The invariant of all calls, refused ones included. -/
theorem Reachable.unambiguous {registry : Registry} (hreachable : registry.Reachable)
    (hconflicts : registry.conflicts = []) : registry.Unambiguous := by
  induction hreachable with
  | empty => exact ⟨List.nodup_nil, List.nodup_nil⟩
  | @register registry before resource ih =>
    unfold Registry.register at hconflicts ⊢
    split at hconflicts
    · obtain ⟨hbefore, hnew⟩ := List.append_eq_nil_iff.1 hconflicts
      simpa only [*, if_true] using
        (unambiguous_insert_iff registry resource).2 ⟨ih hbefore, hnew⟩
    · obtain ⟨hbefore, -⟩ := List.append_eq_nil_iff.1 hconflicts
      simp only [*]
      exact ⟨(ih hbefore).names_nodup, (ih hbefore).ports_nodup⟩

theorem Reachable.code_of_mem {registry : Registry} (hreachable : registry.Reachable)
    {conflict : Diagnostic} (hconflict : conflict ∈ registry.conflicts) :
    conflict.code ∈ [.duplicateResourceName, .duplicatePort] := by
  induction hreachable with
  | empty => cases hconflict
  | register before resource ih =>
    exact (mem_conflicts_register hconflict).elim ih code_of_mem_conflictsOf

theorem Reachable.isError_of_mem {registry : Registry} (hreachable : registry.Reachable)
    {conflict : Diagnostic} (hconflict : conflict ∈ registry.conflicts) :
    conflict.isError = true :=
  Diagnostic.isError_of_code (hreachable.code_of_mem hconflict) (by decide)

theorem Reachable.filter_isError {registry : Registry} (hreachable : registry.Reachable) :
    registry.conflicts.filter (·.isError) = registry.conflicts :=
  List.filter_eq_self.2 fun _ hconflict ↦ hreachable.isError_of_mem hconflict

theorem register_eq_ok {registry next : Registry} {resource : Resource}
    (hregister : registry.register resource = (.ok (), next)) :
    next = registry.insert resource := by
  unfold register at hregister
  split at hregister
  · exact (Prod.mk.inj hregister).2.symm
  · cases hregister

theorem Reachable.fill {resources : List Resource} {before after : Registry}
    (hbefore : before.Reachable) (hfill : fill resources before = .ok after) :
    after.Reachable := by
  induction resources generalizing before with
  | nil =>
    cases hfill
    exact hbefore
  | cons resource rest ih =>
    unfold Registry.fill at hfill
    split at hfill
    · rename_i next hregister
      have hnext := hbefore.register resource
      rw [hregister] at hnext
      exact ih hnext hfill
    · cases hfill

/-- One call keeps the record of conflicts exact, so calls that all return do. -/
theorem conflicts_eq_nil_iff_of_fill {resources : List Resource} {before after : Registry}
    (hbefore : before.conflicts = [] ↔ before.Unambiguous)
    (hfill : fill resources before = .ok after) :
    after.conflicts = [] ↔ after.Unambiguous := by
  induction resources generalizing before with
  | nil =>
    cases hfill
    exact hbefore
  | cons resource rest ih =>
    unfold Registry.fill at hfill
    split at hfill
    · rename_i next hregister
      refine ih ?_ hfill
      rw [register_eq_ok hregister, conflicts_insert, List.append_eq_nil_iff,
        unambiguous_insert_iff, hbefore]
    · cases hfill

end Registry

/-! ## Programs without errors -/

namespace Program

def stateNames (program : Program) : List String :=
  program.states.map (·.name)

@[simp]
theorem containsState_eq_true_iff (program : Program) (name : String) :
    program.containsState name = true ↔ name ∈ program.stateNames := by
  simp [containsState, stateNames]

/-- Every name that a state uses is declared. -/
structure StateResolved (program : Program) (state : State) : Prop where
  actions : ∀ action ∈ state.actions, action.target ∈ program.registry.names
  sensors : ∀ transition ∈ state.transitions, ∀ sensor ∈ transition.trigger.sensors,
    sensor ∈ program.registry.names
  targets : ∀ transition ∈ state.transitions, transition.target ∈ program.stateNames

/-- What is asked of a program apart from its resources. -/
structure Resolved (program : Program) : Prop where
  states_nodup : program.stateNames.Nodup
  states : ∀ state ∈ program.states, program.StateResolved state
  initial : ∃ name, program.initial = some name ∧ name ∈ program.stateNames
  faultPin_given : (∃ state ∈ program.states, state.isFault = true) → program.faultPin ≠ none
  faultPin_free : ∀ pin, program.faultPin = some pin → pin ∉ program.registry.ports

/-- What is asked of a program. -/
structure WellFormed (program : Program) : Prop extends program.Resolved where
  resources : program.registry.Unambiguous

/-! Each check finds nothing exactly if what it asks for holds, and all that it finds are
errors. -/

theorem resourceFindings_eq_nil_iff (program : Program) (names : List String) (origin : Origin) :
    program.resourceFindings names origin = [] ↔ ∀ name ∈ names, name ∈ program.registry.names := by
  simp [resourceFindings]

theorem transitionFindings_eq_nil_iff (program : Program) (transition : Transition) :
    program.transitionFindings transition = [] ↔
      (∀ sensor ∈ transition.trigger.sensors, sensor ∈ program.registry.names) ∧
        transition.target ∈ program.stateNames := by
  rw [transitionFindings, List.append_eq_nil_iff, resourceFindings_eq_nil_iff]
  simp

theorem repetitionFindings_eq_nil_iff (program : Program) (state : State) (later : List State) :
    program.repetitionFindings state later = [] ↔ state.name ∉ later.map (·.name) := by
  simp [repetitionFindings]

theorem stateFindings_eq_nil_iff (program : Program) (states : List State) :
    program.stateFindings states = [] ↔
      (states.map (·.name)).Nodup ∧ ∀ state ∈ states, program.StateResolved state := by
  induction states with
  | nil => simp [stateFindings]
  | cons state later ih =>
    have hstate : state.actions.flatMap program.actionFindings = [] ∧
        state.transitions.flatMap program.transitionFindings = [] ↔
          program.StateResolved state := by
      simp only [List.flatMap_eq_nil_iff, actionFindings, resourceFindings_eq_nil_iff,
        List.mem_singleton, forall_eq, transitionFindings_eq_nil_iff]
      constructor
      · rintro ⟨hactions, htransitions⟩
        exact ⟨hactions, fun edge hedge ↦ (htransitions edge hedge).1,
          fun edge hedge ↦ (htransitions edge hedge).2⟩
      · rintro ⟨hactions, hsensors, htargets⟩
        exact ⟨hactions, fun edge hedge ↦ ⟨hsensors edge hedge, htargets edge hedge⟩⟩
    simp only [stateFindings, List.append_eq_nil_iff, hstate, repetitionFindings_eq_nil_iff, ih,
      List.map_cons, List.nodup_cons, List.forall_mem_cons]
    tauto

theorem initialFindings_eq_nil_iff (program : Program) :
    program.initialFindings = [] ↔
      ∃ name, program.initial = some name ∧ name ∈ program.stateNames := by
  simp [initialFindings, hasInitialState, Option.any_eq_true]

theorem faultPinOwner?_eq_none_iff (program : Program) :
    program.faultPinOwner? = none ↔
      ∀ pin, program.faultPin = some pin → pin ∉ program.registry.ports := by
  simp [faultPinOwner?, Option.bind_eq_none_iff]

theorem faultPinFindings_eq_nil_iff (program : Program) :
    program.faultPinFindings = [] ↔
      ((∃ state ∈ program.states, state.isFault = true) → program.faultPin ≠ none) ∧
        ∀ pin, program.faultPin = some pin → pin ∉ program.registry.ports := by
  rw [← faultPinOwner?_eq_none_iff, faultPinFindings]
  cases hpin : program.faultPin with
  | none => simp [faultStates, faultPinOwner?, hpin]
  | some pin => simp

theorem code_of_mem_conflictFindings {program : Program}
    (hreachable : program.registry.Reachable) {finding : Diagnostic}
    (hfinding : finding ∈ program.conflictFindings) :
    finding.code ∈ [.duplicateResourceName, .duplicatePort] := by
  obtain ⟨conflict, hconflict, rfl⟩ := List.mem_map.1 hfinding
  have hcode := hreachable.code_of_mem hconflict
  exact hcode

theorem code_of_mem_resourceFindings {program : Program} {names : List String}
    {origin : Origin} {finding : Diagnostic}
    (hfinding : finding ∈ program.resourceFindings names origin) :
    finding.code = .undeclaredResource := by
  obtain ⟨name, -, rfl⟩ := List.mem_map.1 hfinding
  rfl

theorem code_of_mem_transitionFindings {program : Program} {transition : Transition}
    {finding : Diagnostic} (hfinding : finding ∈ program.transitionFindings transition) :
    finding.code ∈ [.undeclaredResource, .undeclaredState] := by
  rcases List.mem_append.1 hfinding with hsensor | htarget
  · rw [code_of_mem_resourceFindings hsensor]
    exact List.mem_cons_self
  · split at htarget
    · cases htarget
    · rw [List.mem_singleton.1 htarget]
      exact List.mem_cons_of_mem _ List.mem_cons_self

theorem code_of_mem_repetitionFindings {program : Program} {state : State} {later : List State}
    {finding : Diagnostic} (hfinding : finding ∈ program.repetitionFindings state later) :
    finding.code = .duplicateStateName := by
  unfold repetitionFindings at hfinding
  split at hfinding
  · rw [List.mem_singleton.1 hfinding]
    rfl
  · cases hfinding

theorem code_of_mem_stateFindings {program : Program} {states : List State}
    {finding : Diagnostic} (hfinding : finding ∈ program.stateFindings states) :
    finding.code ∈ [.undeclaredResource, .undeclaredState, .duplicateStateName] := by
  induction states with
  | nil => cases hfinding
  | cons state later ih =>
    simp only [stateFindings, List.mem_append, List.mem_flatMap] at hfinding
    rcases hfinding with ((⟨action, -, haction⟩ | ⟨edge, -, hedge⟩) | hrepeated) | hlater
    · rw [code_of_mem_resourceFindings haction]
      exact List.mem_cons_self
    · exact List.mem_append_left [.duplicateStateName] (code_of_mem_transitionFindings hedge)
    · rw [code_of_mem_repetitionFindings hrepeated]
      decide
    · exact ih hlater

theorem code_of_mem_initialFindings {program : Program} {finding : Diagnostic}
    (hfinding : finding ∈ program.initialFindings) : finding.code = .missingInitialState := by
  unfold initialFindings at hfinding
  split at hfinding
  · cases hfinding
  · rw [List.mem_singleton.1 hfinding]
    rfl

theorem code_of_mem_faultPinFindings {program : Program} {finding : Diagnostic}
    (hfinding : finding ∈ program.faultPinFindings) :
    finding.code ∈ [.missingFaultPin, .duplicatePort] := by
  unfold faultPinFindings at hfinding
  split at hfinding
  · obtain ⟨first, -, rfl⟩ := List.mem_map.1 hfinding
    exact List.mem_cons_self
  · obtain ⟨owner, -, rfl⟩ := List.mem_map.1 hfinding
    exact List.mem_cons_of_mem _ List.mem_cons_self

theorem code_of_mem_nameFindings {program : Program} {finding : Diagnostic}
    (hfinding : finding ∈ program.nameFindings) : finding.code = .nameCapitalization := by
  unfold nameFindings at hfinding
  split at hfinding
  · cases hfinding
  · rw [List.mem_singleton.1 hfinding]
    rfl

theorem code_of_mem_markingFindings {program : Program} {finding : Diagnostic}
    (hfinding : finding ∈ program.markingFindings) : finding.code = .multipleInitialStates := by
  unfold markingFindings at hfinding
  split at hfinding
  · rw [List.mem_singleton.1 hfinding]
    rfl
  · cases hfinding

theorem isError_of_mem_stateFindings {program : Program} {states : List State}
    {finding : Diagnostic} (hfinding : finding ∈ program.stateFindings states) :
    finding.isError = true :=
  Diagnostic.isError_of_code (code_of_mem_stateFindings hfinding) (by decide)

theorem isError_of_mem_initialFindings {program : Program} {finding : Diagnostic}
    (hfinding : finding ∈ program.initialFindings) : finding.isError = true := by
  rw [Diagnostic.isError, code_of_mem_initialFindings hfinding]
  rfl

theorem isError_of_mem_faultPinFindings {program : Program} {finding : Diagnostic}
    (hfinding : finding ∈ program.faultPinFindings) : finding.isError = true :=
  Diagnostic.isError_of_code (code_of_mem_faultPinFindings hfinding) (by decide)

theorem isError_of_mem_advisories {program : Program} {finding : Diagnostic}
    (hfinding : finding ∈ program.nameFindings ++ program.markingFindings) :
    finding.isError = false := by
  rw [Diagnostic.isError]
  rcases List.mem_append.1 hfinding with hname | hmarking
  · rw [code_of_mem_nameFindings hname]
    rfl
  · rw [code_of_mem_markingFindings hmarking]
    rfl

theorem warnings_ofDiagnostics_findings (program : Program) :
    (Report.ofDiagnostics program.findings).warnings =
      program.conflictFindings.filter (!·.isError) ++ program.nameFindings ++
        program.markingFindings := by
  have hstates : (program.stateFindings program.states).filter (!·.isError) = [] :=
    List.filter_eq_nil_iff.2 fun _ h ↦ by simp [isError_of_mem_stateFindings h]
  have hinitial : program.initialFindings.filter (!·.isError) = [] :=
    List.filter_eq_nil_iff.2 fun _ h ↦ by simp [isError_of_mem_initialFindings h]
  have hpin : program.faultPinFindings.filter (!·.isError) = [] :=
    List.filter_eq_nil_iff.2 fun _ h ↦ by simp [isError_of_mem_faultPinFindings h]
  have hadvice : (program.nameFindings ++ program.markingFindings).filter (!·.isError) =
      program.nameFindings ++ program.markingFindings :=
    List.filter_eq_self.2 fun _ h ↦ by simp [isError_of_mem_advisories h]
  simp only [Report.ofDiagnostics, findings, List.append_assoc]
  rw [List.filter_append, List.filter_append, List.filter_append, List.filter_append, hstates,
    hinitial, hpin, hadvice]
  simp

theorem errors_ofDiagnostics_findings (program : Program) :
    (Report.ofDiagnostics program.findings).errors =
      program.conflictFindings.filter (·.isError) ++ program.stateFindings program.states ++
        program.initialFindings ++ program.faultPinFindings := by
  have hstates : (program.stateFindings program.states).filter (·.isError) =
      program.stateFindings program.states :=
    List.filter_eq_self.2 fun _ h ↦ isError_of_mem_stateFindings h
  have hinitial : program.initialFindings.filter (·.isError) = program.initialFindings :=
    List.filter_eq_self.2 fun _ h ↦ isError_of_mem_initialFindings h
  have hpin : program.faultPinFindings.filter (·.isError) = program.faultPinFindings :=
    List.filter_eq_self.2 fun _ h ↦ isError_of_mem_faultPinFindings h
  have hadvice : (program.nameFindings ++ program.markingFindings).filter (·.isError) = [] :=
    List.filter_eq_nil_iff.2 fun _ h ↦ by simp [isError_of_mem_advisories h]
  simp only [Report.ofDiagnostics, findings, List.append_assoc]
  rw [List.filter_append, List.filter_append, List.filter_append, List.filter_append, hstates,
    hinitial, hpin, hadvice, List.append_nil]

/-- Without errors all checks of states, of the initial state and of the fault pin pass. -/
theorem errors_ofDiagnostics_findings_eq_nil_iff (program : Program) :
    (Report.ofDiagnostics program.findings).errors = [] ↔
      program.registry.conflicts.filter (·.isError) = [] ∧ program.Resolved := by
  have hconflicts : program.conflictFindings.filter (·.isError) = [] ↔
      program.registry.conflicts.filter (·.isError) = [] := by
    simp [conflictFindings, Diagnostic.isError]
  rw [errors_ofDiagnostics_findings]
  simp only [List.append_eq_nil_iff, hconflicts, stateFindings_eq_nil_iff,
    initialFindings_eq_nil_iff, faultPinFindings_eq_nil_iff]
  constructor
  · rintro ⟨⟨⟨hnone, hnodup, hresolved⟩, hchosen⟩, hgiven, hfree⟩
    exact ⟨hnone, hnodup, hresolved, hchosen, hgiven, hfree⟩
  · rintro ⟨hnone, hnodup, hresolved, hchosen, hgiven, hfree⟩
    exact ⟨⟨⟨hnone, hnodup, hresolved⟩, hchosen⟩, hgiven, hfree⟩

/-! ## Reports that can be given -/

/-- Whether the number of markings has to be told and has too many digits for it. -/
def hasWideMarkings (program : Program) : Bool :=
  program.hasSeveralMarkings && Text.isTooWide program.initialMarkings

/-- Whether the fault pin has to be told, because a resource is on it, and has too many digits. -/
def hasWideFaultPin (program : Program) : Bool :=
  program.faultPinOwner?.isSome && program.faultPin.any (Text.isTooWide ·)

theorem validate_eq_ok_iff (program : Program) (report : Report) :
    program.validate = .ok report ↔
      program.hasWideFaultPin = false ∧ program.hasWideMarkings = false ∧
        report = Report.ofDiagnostics program.findings := by
  have htellable : program.isTellable = (!program.hasWideFaultPin && !program.hasWideMarkings) :=
    rfl
  rw [validate, htellable]
  cases program.hasWideFaultPin <;> cases program.hasWideMarkings <;> simp [eq_comm]

theorem Resolved.hasWideFaultPin_eq_false {program : Program} (hresolved : program.Resolved) :
    program.hasWideFaultPin = false := by
  have howner := program.faultPinOwner?_eq_none_iff.2 hresolved.faultPin_free
  simp [hasWideFaultPin, howner]

/-- A report without errors is given exactly if the program is well formed, unless its markings are
too many to be told. -/
theorem validate_without_errors_iff {program : Program} {resources : List Resource}
    (hregistry : Registry.fill resources {} = .ok program.registry) :
    (∃ report, program.validate = .ok report ∧ report.errors = []) ↔
      program.WellFormed ∧ program.hasWideMarkings = false := by
  have hreachable := Registry.Reachable.empty.fill hregistry
  have hempty : ({} : Registry).conflicts = [] ↔ ({} : Registry).Unambiguous :=
    ⟨fun _ ↦ ⟨List.nodup_nil, List.nodup_nil⟩, fun _ ↦ rfl⟩
  have hexact := Registry.conflicts_eq_nil_iff_of_fill hempty hregistry
  have hall := hreachable.filter_isError
  constructor
  · rintro ⟨report, hvalidate, herrors⟩
    obtain ⟨-, hmarkings, rfl⟩ := (validate_eq_ok_iff _ _).1 hvalidate
    obtain ⟨hconflicts, hresolved⟩ := (errors_ofDiagnostics_findings_eq_nil_iff _).1 herrors
    rw [hall] at hconflicts
    exact ⟨⟨hresolved, hexact.1 hconflicts⟩, hmarkings⟩
  · rintro ⟨⟨hresolved, hresources⟩, hmarkings⟩
    refine ⟨_, (validate_eq_ok_iff _ _).2 ⟨hresolved.hasWideFaultPin_eq_false, hmarkings, rfl⟩, ?_⟩
    rw [errors_ofDiagnostics_findings_eq_nil_iff, hall]
    exact ⟨hexact.2 hresources, hresolved⟩

end Program

/-- A barrier with a detector loop in the road: the key opens it while a car waits, it closes after
a while, and a car that leaves too early is a fault. -/
def barrier : Program where
  name := "barrier"
  registry := {
    resources := [
      { name := "key", kind := .sensor, port := 2 },
      { name := "loop", kind := .sensor, port := 3 },
      { name := "motor+", kind := .actuator, port := 8 },
      { name := "motor-", kind := .actuator, port := 9 }] }
  states := [
    { name := "closed"
      body := .normal
        [{ target := "motor+", level := .low }, { target := "motor-", level := .high }]
        [{ trigger := .guard (.both (.reads "key" .high) (.reads "loop" .high))
           target := "open" }] },
    { name := "open"
      body := .normal
        [{ target := "motor-", level := .low }, { target := "motor+", level := .high }]
        [{ trigger := .guard (.either (.reads "loop" .low) (.reads "key" .high))
           target := "jammed" },
          { trigger := .delay 5000, target := "closed" }] },
    { name := "jammed", body := .fault 3 }]
  initial := some "closed"
  faultPin := some 13
  initialMarkings := 1

/-- The barrier, marked more often than can be told. -/
def overmarkedBarrier : Program :=
  { barrier with initialMarkings := Text.leastWide }

namespace Program

theorem barrier_wellFormed :
    Registry.fill barrier.registry.resources {} = .ok barrier.registry ∧ barrier.WellFormed := by
  have hregistry : Registry.fill barrier.registry.resources {} = .ok barrier.registry := by
    decide +kernel
  have hreport : barrier.validate = .ok (Report.ofDiagnostics barrier.findings) := by
    decide +kernel
  exact ⟨hregistry,
    ((validate_without_errors_iff hregistry).1 ⟨_, hreport, by decide +kernel⟩).1⟩

/-- The count of markings is taken as it is given, and a report that has to tell it is refused. -/
theorem overmarkedBarrier_wellFormed_refused :
    Program.ofArguments (.text "barrier") (.integer 13) barrier.registry barrier.states
        (some "closed") none none Text.leastWide = .ok overmarkedBarrier ∧
      Registry.fill barrier.registry.resources {} = .ok overmarkedBarrier.registry ∧
      overmarkedBarrier.WellFormed ∧ overmarkedBarrier.validate = .error .numeralTooWide := by
  have herrors : (Report.ofDiagnostics overmarkedBarrier.findings).errors = [] := by
    decide +kernel
  obtain ⟨-, hresolved⟩ := (errors_ofDiagnostics_findings_eq_nil_iff _).1 herrors
  exact ⟨by decide +kernel, by decide +kernel,
    ⟨hresolved, by decide +kernel, by decide +kernel⟩, by decide +kernel⟩

end Program

end StateSketch
