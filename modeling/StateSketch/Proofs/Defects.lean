import Mathlib.Data.List.Dedup
import StateSketch.Proofs.Validation

/-!
# Every defect is reported once

A defect of a program has a position, and the report lists the defects of all kinds in the order of
their positions.  Only a number with too many digits stands in the way of a report.
-/

namespace StateSketch

/-- Where in a program a defect is.  States, actions, transitions and the sensors of a trigger are
counted from zero. -/
inductive Position where
  | conflict (index : Nat)
  | action (state action : Nat)
  | sensor (state transition sensor : Nat)
  | target (state transition : Nat)
  | repetition (state : Nat)
  | initial
  | faultPin
  | faultPort
deriving DecidableEq

/-- Positions are ordered by their ranks, as words are in a dictionary. -/
def Position.rank : Position → List Nat
  | .conflict index => [0, index]
  | .action s a => [1, s, 0, a]
  | .sensor s t r => [1, s, 1, t, 0, r]
  | .target s t => [1, s, 1, t, 1]
  | .repetition s => [1, s, 2]
  | .initial => [2]
  | .faultPin => [3, 0]
  | .faultPort => [3, 1]

/-- What was found at one position. -/
def Position.entries (position : Position) (findings : List Diagnostic) :
    List (Position × Diagnostic) :=
  findings.map (Prod.mk position)

@[simp]
theorem Position.map_snd_entries (position : Position) (findings : List Diagnostic) :
    (position.entries findings).map (·.2) = findings := by
  simp [entries, Function.comp_def]

theorem Position.mem_entries {position : Position} {findings : List Diagnostic}
    {entry : Position × Diagnostic} :
    entry ∈ position.entries findings ↔ entry.1 = position ∧ entry.2 ∈ findings := by
  unfold entries
  rw [List.mem_map]
  constructor
  · rintro ⟨finding, hfinding, rfl⟩
    exact ⟨rfl, hfinding⟩
  · rintro ⟨rfl, hfinding⟩
    exact ⟨entry.2, hfinding, rfl⟩

namespace Program

/-- The defects of a program, with what is reported about them. -/
inductive HasDefect (program : Program) : Position → Diagnostic → Prop where
  | conflict {index : Nat} {conflict : Diagnostic}
    (recorded : program.registry.conflicts[index]? = some conflict)
    (severe : conflict.isError = true) :
    HasDefect program (.conflict index)
      { conflict with origin := program.place conflict.origin }
  | action {s a : Nat} {state : State} {action : Action}
    (listed : program.states[s]? = some state) (performed : state.actions[a]? = some action)
    (undeclared : action.target ∉ program.registry.names) :
    HasDefect program (.action s a)
      { code := .undeclaredResource
        message := s!"undeclared '{action.target}'"
        origin := program.place action.origin }
  | sensor {s t r : Nat} {state : State} {transition : Transition} {sensor : String}
    (listed : program.states[s]? = some state)
    (leaves : state.transitions[t]? = some transition)
    (read : transition.trigger.sensors[r]? = some sensor)
    (undeclared : sensor ∉ program.registry.names) :
    HasDefect program (.sensor s t r)
      { code := .undeclaredResource
        message := s!"undeclared '{sensor}'"
        origin := program.place transition.origin }
  | target {s t : Nat} {state : State} {transition : Transition}
    (listed : program.states[s]? = some state)
    (leaves : state.transitions[t]? = some transition)
    (undeclared : transition.target ∉ program.stateNames) :
    HasDefect program (.target s t)
      { code := .undeclaredState
        message := s!"undeclared state '{transition.target}'"
        origin := program.place transition.origin
        suggestion := some "Declare the target state or fix the transition's target name." }
  | repetition {s later : Nat} {state other : State}
    (listed : program.states[s]? = some state) (after : s < later)
    (again : program.states[later]? = some other) (same : other.name = state.name) :
    HasDefect program (.repetition s)
      { code := .duplicateStateName
        message := s!"duplicate state name: '{state.name}'"
        origin := program.place state.origin }
  | initial (missing : ∀ name, program.initial = some name → name ∉ program.stateNames) :
    HasDefect program .initial
      { code := .missingInitialState
        message := "no initial state declared"
        origin := { line := program.endLine, file := program.file }
        suggestion := some "Mark exactly one state as initial." }
  | faultPin {s : Nat} {state : State} (missing : program.faultPin = none)
    (listed : program.states[s]? = some state) (fault : state.isFault = true)
    (first : ∀ before < s, ∀ other, program.states[before]? = some other →
      other.isFault = false) :
    HasDefect program .faultPin
      { code := .missingFaultPin
        message := "a fault pin is required when fault states are defined"
        origin := program.place state.origin
        suggestion := some "Pass fault_pin=<pin> when creating the program." }
  | faultPort {r pin : Nat} {resource : Resource} (given : program.faultPin = some pin)
    (declared : program.registry.resources[r]? = some resource) (taken : resource.port = pin)
    (first : ∀ before < r, ∀ other, program.registry.resources[before]? = some other →
      other.port ≠ pin) :
    HasDefect program .faultPort
      { code := .duplicatePort
        message := s!"port {pin} was already used by '{resource.name}'"
        origin := program.place resource.origin
        suggestion := some "The fault pin must not be shared with a declared resource." }

end Program

/-! ## Lists with positions -/

/-- What is found at each item of a list, given the item and its place. -/
def atEach {α β : Type} (items : List α) (found : Nat → α → List β) : List β :=
  items.zipIdx.flatMap fun item ↦ found item.2 item.1

section AtEach

variable {α β γ : Type} {items : List α} {found : Nat → α → List β}

theorem mem_atEach {finding : β} :
    finding ∈ atEach items found ↔
      ∃ index item, items[index]? = some item ∧ finding ∈ found index item := by
  unfold atEach
  rw [List.mem_flatMap]
  constructor
  · rintro ⟨⟨item, index⟩, hitem, hfinding⟩
    exact ⟨index, item, List.mem_zipIdx_iff_getElem?.1 hitem, hfinding⟩
  · rintro ⟨index, item, hitem, hfinding⟩
    exact ⟨(item, index), List.mem_zipIdx_iff_getElem?.2 hitem, hfinding⟩

theorem map_atEach (f : β → γ) (items : List α) (found : Nat → α → List β) :
    (atEach items found).map f = atEach items fun index item ↦ (found index item).map f :=
  List.map_flatMap

/-- Without regard to their places, the items are gone through one by one. -/
theorem atEach_const (items : List α) (found : α → List β) :
    (atEach items fun _ item ↦ found item) = items.flatMap found := by
  unfold atEach
  rw [← List.flatMap_map, List.zipIdx_map_fst]

end AtEach

theorem append_cons_lt {start left right : List Nat} {i j : Nat} (hlt : i < j) :
    start ++ i :: left < start ++ j :: right := by
  induction start with
  | nil => exact List.Lex.rel hlt
  | cons n rest ih => exact List.Lex.cons ih

/-- Entries in the order of their positions, all of which come under one start of a rank. -/
structure Ordered (start : List Nat) (entries : List (Position × Diagnostic)) : Prop where
  pairwise : entries.Pairwise fun first second ↦ first.1.rank < second.1.rank
  under : ∀ entry ∈ entries, start <+: entry.1.rank

namespace Ordered

variable {start : List Nat}

/-- A check that finds at most one thing. -/
theorem of_length_le_one {findings : List Diagnostic} {position : Position}
    (hlength : findings.length ≤ 1) (hstart : start <+: position.rank) :
    Ordered start (position.entries findings) := by
  constructor
  · unfold Position.entries
    rw [List.pairwise_map]
    cases findings with
    | nil => exact List.Pairwise.nil
    | cons finding rest =>
      have hrest : rest = [] := by simpa using hlength
      rw [hrest]
      exact List.pairwise_singleton _ _
  · intro entry hentry
    rw [(Position.mem_entries.1 hentry).1]
    exact hstart

/-- Numbered parts that are in order by themselves are in order one after the other. -/
theorem atEach {α : Type} {items : List α} {found : Nat → α → List (Position × Diagnostic)}
    (hparts : ∀ index item, items[index]? = some item →
      Ordered (start ++ [index]) (found index item)) :
    Ordered start (atEach items found) := by
  have hindices : items.zipIdx.Pairwise fun first second ↦ first.2 < second.2 := by
    rw [← List.pairwise_map, List.zipIdx_map_snd]
    exact List.pairwise_lt_range'
  have hpart {item : α} {index : Nat} (hmem : (item, index) ∈ items.zipIdx) :
      Ordered (start ++ [index]) (found index item) :=
    hparts index item (List.mem_zipIdx_iff_getElem?.1 hmem)
  constructor
  · unfold StateSketch.atEach
    rw [List.pairwise_flatMap]
    refine ⟨fun item hitem ↦ (hpart hitem).pairwise, hindices.imp_of_mem ?_⟩
    intro first second hfirst hsecond hlt entry hentry other hother
    obtain ⟨left, hleft⟩ := (hpart hfirst).under entry hentry
    obtain ⟨right, hright⟩ := (hpart hsecond).under other hother
    rw [← hleft, ← hright, List.append_assoc, List.append_assoc]
    exact append_cons_lt hlt
  · intro entry hentry
    obtain ⟨index, item, hitem, hmem⟩ := mem_atEach.1 hentry
    exact (List.prefix_append start [index]).trans ((hparts index item hitem).under entry hmem)

theorem flatten {parts : List (List (Position × Diagnostic))}
    (hparts : ∀ part ∈ parts.zipIdx, Ordered (start ++ [part.2]) part.1) :
    Ordered start parts.flatten := by
  rw [← List.flatMap_id, ← atEach_const]
  apply Ordered.atEach
  intro index part hpart
  exact hparts (part, index) (List.mem_zipIdx_iff_getElem?.2 hpart)

end Ordered

/-! ## The defects in order -/

namespace Program

variable (program : Program)

def targetFindings (transition : Transition) : List Diagnostic :=
  if program.containsState transition.target then []
  else [(Problem.undeclaredState transition.target).report (program.place transition.origin)]

def conflictDefects : List (Position × Diagnostic) :=
  atEach program.registry.conflicts fun index conflict ↦
    (Position.conflict index).entries
      ([{ conflict with origin := program.place conflict.origin }].filter (·.isError))

def actionDefects (s : Nat) (state : State) : List (Position × Diagnostic) :=
  atEach state.actions fun a action ↦ (Position.action s a).entries (program.actionFindings action)

def sensorDefects (s t : Nat) (transition : Transition) : List (Position × Diagnostic) :=
  atEach transition.trigger.sensors fun r sensor ↦
    (Position.sensor s t r).entries (program.resourceFindings [sensor] transition.origin)

def transitionDefects (s t : Nat) (transition : Transition) : List (Position × Diagnostic) :=
  [program.sensorDefects s t transition,
    (Position.target s t).entries (program.targetFindings transition)].flatten

def stateDefects (s : Nat) (state : State) : List (Position × Diagnostic) :=
  [program.actionDefects s state, atEach state.transitions (program.transitionDefects s),
    (Position.repetition s).entries
      (program.repetitionFindings state (program.states.drop (s + 1)))].flatten

def faultPinPosition : Position :=
  if program.faultPin.isNone then .faultPin else .faultPort

def defects : List (Position × Diagnostic) :=
  [program.conflictDefects, atEach program.states program.stateDefects,
    Position.initial.entries program.initialFindings,
    program.faultPinPosition.entries program.faultPinFindings].flatten

theorem length_resourceFindings_singleton_le (name : String) (origin : Origin) :
    (program.resourceFindings [name] origin).length ≤ 1 := by
  rw [resourceFindings, List.length_map]
  exact List.length_filter_le _ _

theorem ordered_transitionDefects (s t : Nat) (transition : Transition) :
    Ordered [1, s, 1, t] (program.transitionDefects s t transition) := by
  have hsensors : Ordered [1, s, 1, t, 0] (program.sensorDefects s t transition) := by
    apply Ordered.atEach
    intro r sensor _
    exact Ordered.of_length_le_one (program.length_resourceFindings_singleton_le _ _)
      List.prefix_rfl
  have htarget : (program.targetFindings transition).length ≤ 1 := by
    unfold targetFindings
    split <;> simp
  apply Ordered.flatten
  simpa using ⟨hsensors, Ordered.of_length_le_one htarget List.prefix_rfl⟩

theorem ordered_stateDefects (s : Nat) (state : State) :
    Ordered [1, s] (program.stateDefects s state) := by
  have hactions : Ordered [1, s, 0] (program.actionDefects s state) := by
    apply Ordered.atEach
    intro a action _
    exact Ordered.of_length_le_one (program.length_resourceFindings_singleton_le _ _)
      List.prefix_rfl
  have htransitions :
      Ordered [1, s, 1] (atEach state.transitions (program.transitionDefects s)) := by
    apply Ordered.atEach
    intro t transition _
    exact program.ordered_transitionDefects s t transition
  have hrepetition (later : List State) : (program.repetitionFindings state later).length ≤ 1 := by
    unfold repetitionFindings
    split <;> simp
  have hrepeated : Ordered [1, s, 2]
      ((Position.repetition s).entries
        (program.repetitionFindings state (program.states.drop (s + 1)))) :=
    Ordered.of_length_le_one (hrepetition _) List.prefix_rfl
  apply Ordered.flatten
  simpa using ⟨hactions, htransitions, hrepeated⟩

theorem ordered_defects : Ordered [] program.defects := by
  have hconflicts : Ordered [0] program.conflictDefects := by
    apply Ordered.atEach
    intro index conflict _
    exact Ordered.of_length_le_one (List.length_filter_le _ _) List.prefix_rfl
  have hstates : Ordered [1] (atEach program.states program.stateDefects) := by
    apply Ordered.atEach
    intro s state _
    exact program.ordered_stateDefects s state
  have hinitial : Ordered [2] (Position.initial.entries program.initialFindings) := by
    refine Ordered.of_length_le_one ?_ List.prefix_rfl
    unfold initialFindings
    split <;> simp
  have hfault : program.faultPinFindings.length ≤ 1 := by
    unfold faultPinFindings
    split <;> simp [Option.length_toList_le]
  have hrank : [3] <+: program.faultPinPosition.rank := by
    unfold faultPinPosition
    split <;> simp [Position.rank]
  apply Ordered.flatten
  simpa using ⟨hconflicts, hstates, hinitial, Ordered.of_length_le_one hfault hrank⟩

theorem stateFindings_append_eq (before rest : List State) :
    program.stateFindings rest = (rest.zipIdx before.length).flatMap fun item ↦
      item.1.actions.flatMap program.actionFindings ++
        item.1.transitions.flatMap program.transitionFindings ++
        program.repetitionFindings item.1 ((before ++ rest).drop (item.2 + 1)) := by
  induction rest generalizing before with
  | nil => rfl
  | cons state later ih =>
    have hdrop : (before ++ state :: later).drop (before.length + 1) = later := by
      rw [← List.drop_drop, List.drop_left]
      rfl
    have hlater := ih (before ++ [state])
    rw [List.length_append, List.length_singleton, List.append_assoc, List.singleton_append]
      at hlater
    rw [stateFindings, List.zipIdx_cons, List.flatMap_cons, hdrop, hlater]

theorem flatMap_resourceFindings (names : List String) (origin : Origin) :
    names.flatMap (fun name ↦ program.resourceFindings [name] origin) =
      program.resourceFindings names origin := by
  induction names with
  | nil => rfl
  | cons name rest ih =>
    rw [List.flatMap_cons, ih, resourceFindings, resourceFindings, resourceFindings,
      ← List.map_append, ← List.filter_append, List.singleton_append]

theorem map_snd_transitionDefects (s t : Nat) (transition : Transition) :
    (program.transitionDefects s t transition).map (·.2) =
      program.transitionFindings transition := by
  have hsensors : (program.sensorDefects s t transition).map (·.2) =
      program.resourceFindings transition.trigger.sensors transition.origin := by
    rw [sensorDefects, map_atEach, ← flatMap_resourceFindings, ← atEach_const]
    simp only [Position.map_snd_entries]
  simp [transitionDefects, hsensors, transitionFindings, targetFindings]

theorem map_snd_stateDefects (s : Nat) (state : State) :
    (program.stateDefects s state).map (·.2) =
      state.actions.flatMap program.actionFindings ++
        state.transitions.flatMap program.transitionFindings ++
        program.repetitionFindings state (program.states.drop (s + 1)) := by
  have hactions : (program.actionDefects s state).map (·.2) =
      state.actions.flatMap program.actionFindings := by
    rw [actionDefects, map_atEach, ← atEach_const]
    simp only [Position.map_snd_entries]
  have htransitions : (atEach state.transitions (program.transitionDefects s)).map (·.2) =
      state.transitions.flatMap program.transitionFindings := by
    rw [map_atEach, ← atEach_const]
    simp only [map_snd_transitionDefects]
  simp [stateDefects, hactions, htransitions]

theorem map_snd_conflictDefects :
    program.conflictDefects.map (·.2) = program.conflictFindings.filter (·.isError) := by
  rw [conflictDefects, map_atEach, conflictFindings]
  simp only [Position.map_snd_entries]
  rw [atEach_const, ← List.filter_flatMap, ← List.map_eq_flatMap, List.filter_map]

/-- The errors of a program are what is reported about its defects. -/
theorem map_snd_defects :
    program.defects.map (·.2) = (Report.ofDiagnostics program.findings).errors := by
  have hstates : (atEach program.states program.stateDefects).map (·.2) =
      program.stateFindings program.states := by
    rw [map_atEach, program.stateFindings_append_eq [] program.states]
    simp only [map_snd_stateDefects]
    rfl
  rw [errors_ofDiagnostics_findings]
  simp [defects, map_snd_conflictDefects, hstates]

variable {program}

theorem mem_resourceFindings {names : List String} {origin : Origin} {finding : Diagnostic} :
    finding ∈ program.resourceFindings names origin ↔ ∃ name ∈ names,
      name ∉ program.registry.names ∧
        finding = (Problem.undeclaredResource name).report (program.place origin) := by
  simp [resourceFindings, and_assoc, @eq_comm _ finding, ← Bool.not_eq_true]

theorem mem_targetFindings {transition : Transition} {finding : Diagnostic} :
    finding ∈ program.targetFindings transition ↔ transition.target ∉ program.stateNames ∧
      finding =
        (Problem.undeclaredState transition.target).report (program.place transition.origin) := by
  unfold targetFindings
  split <;> simp_all

theorem mem_repetitionFindings {s : Nat} {state : State} {finding : Diagnostic} :
    finding ∈ program.repetitionFindings state (program.states.drop (s + 1)) ↔
      (∃ later other, s < later ∧ program.states[later]? = some other ∧
        other.name = state.name) ∧
      finding = (Problem.stateNameUsed state.name).report (program.place state.origin) := by
  have hlater : (program.states.drop (s + 1)).any (·.name == state.name) = true ↔
      ∃ later other, s < later ∧ program.states[later]? = some other ∧
        other.name = state.name := by
    rw [List.any_eq_true]
    constructor
    · rintro ⟨other, hother, hname⟩
      obtain ⟨offset, hoffset⟩ := List.mem_iff_getElem?.1 hother
      rw [List.getElem?_drop] at hoffset
      exact ⟨s + 1 + offset, other, by omega, hoffset, beq_iff_eq.1 hname⟩
    · rintro ⟨later, other, hlt, hother, hname⟩
      refine ⟨other, List.mem_iff_getElem?.2 ⟨later - (s + 1), ?_⟩, beq_iff_eq.2 hname⟩
      rw [List.getElem?_drop, Nat.add_sub_cancel' hlt, hother]
  rw [← hlater, repetitionFindings]
  split <;> simp_all

theorem mem_initialFindings {finding : Diagnostic} :
    finding ∈ program.initialFindings ↔
      (∀ name, program.initial = some name → name ∉ program.stateNames) ∧
        finding = Problem.missingInitialState.report
          { line := program.endLine, file := program.file } := by
  have hinitial : program.hasInitialState = false ↔
      ∀ name, program.initial = some name → name ∉ program.stateNames := by
    rw [Bool.eq_false_iff]
    simp [hasInitialState, Option.any_eq_true]
  rw [← hinitial, initialFindings]
  split <;> simp_all

theorem find?_eq_some_iff_first {α : Type} {items : List α} {test : α → Bool} {item : α} :
    items.find? test = some item ↔ ∃ index : Nat, items[index]? = some item ∧ test item = true ∧
      ∀ before < index, ∀ other, items[before]? = some other → test other = false := by
  rw [List.find?_eq_some_iff_getElem]
  constructor
  · rintro ⟨htest, index, hindex, rfl, hbefore⟩
    refine ⟨index, List.getElem?_eq_getElem hindex, htest, fun before hlt other hother ↦ ?_⟩
    obtain ⟨hlength, rfl⟩ := List.getElem?_eq_some_iff.1 hother
    simpa using hbefore before hlt
  · rintro ⟨index, hitem, htest, hbefore⟩
    obtain ⟨hindex, rfl⟩ := List.getElem?_eq_some_iff.1 hitem
    refine ⟨htest, index, hindex, rfl, fun before hlt ↦ ?_⟩
    simpa using hbefore before hlt _ (List.getElem?_eq_getElem (Nat.lt_trans hlt hindex))

theorem mem_faultPinFindings_of_missing (hpin : program.faultPin = none)
    {finding : Diagnostic} :
    finding ∈ program.faultPinFindings ↔ ∃ state,
      program.states.find? (·.isFault) = some state ∧
        finding = Problem.missingFaultPin.report (program.place state.origin) := by
  simp [faultPinFindings, hpin, faultStates, @eq_comm _ finding]

theorem mem_faultPinFindings_of_given {pin : Nat} (hpin : program.faultPin = some pin)
    {finding : Diagnostic} :
    finding ∈ program.faultPinFindings ↔ ∃ owner,
      program.registry.resources.find? (·.port == pin) = some owner ∧
        finding = (Problem.faultPinUsed (toString pin) owner.name).report
          (program.place owner.origin) := by
  simp [faultPinFindings, hpin, faultPinOwner?, Registry.ownerOfPort?, @eq_comm _ finding]

/-! Each entry belongs to a defect. -/

section OfMem

variable {s t : Nat} {state : State} {transition : Transition} {entry : Position × Diagnostic}

theorem hasDefect_of_mem_transitionDefects (hlisted : program.states[s]? = some state)
    (hleaves : state.transitions[t]? = some transition)
    (hentry : entry ∈ program.transitionDefects s t transition) :
    program.HasDefect entry.1 entry.2 := by
  simp only [transitionDefects, sensorDefects, List.flatten_cons, List.flatten_nil,
    List.append_nil, List.mem_append, mem_atEach, Position.mem_entries, mem_resourceFindings,
    List.mem_singleton, mem_targetFindings] at hentry
  obtain ⟨r, sensor, hread, hposition, name, rfl, hundeclared, hfinding⟩ |
    ⟨hposition, hundeclared, hfinding⟩ := hentry
  · rw [hposition, hfinding]
    exact .sensor hlisted hleaves hread hundeclared
  · rw [hposition, hfinding]
    exact .target hlisted hleaves hundeclared

theorem hasDefect_of_mem_stateDefects (hlisted : program.states[s]? = some state)
    (hentry : entry ∈ program.stateDefects s state) : program.HasDefect entry.1 entry.2 := by
  simp only [stateDefects, actionDefects, actionFindings, List.flatten_cons, List.flatten_nil,
    List.append_nil, List.mem_append, mem_atEach, Position.mem_entries, mem_resourceFindings,
    List.mem_singleton, mem_repetitionFindings] at hentry
  obtain ⟨a, action, hperformed, hposition, name, rfl, hundeclared, hfinding⟩ |
    ⟨t, transition, hleaves, hentry⟩ |
    ⟨hposition, ⟨later, other, hlt, hagain, hsame⟩, hfinding⟩ := hentry
  · rw [hposition, hfinding]
    exact .action hlisted hperformed hundeclared
  · exact hasDefect_of_mem_transitionDefects hlisted hleaves hentry
  · rw [hposition, hfinding]
    exact .repetition hlisted hlt hagain hsame

theorem hasDefect_of_mem_faultPinFindings {finding : Diagnostic}
    (hfinding : finding ∈ program.faultPinFindings) :
    program.HasDefect program.faultPinPosition finding := by
  unfold faultPinPosition
  cases hpin : program.faultPin with
  | none =>
    obtain ⟨state, hstate, rfl⟩ := (mem_faultPinFindings_of_missing hpin).1 hfinding
    obtain ⟨s, hlisted, hfault, hfirst⟩ := find?_eq_some_iff_first.1 hstate
    exact .faultPin hpin hlisted hfault hfirst
  | some pin =>
    obtain ⟨owner, howner, rfl⟩ := (mem_faultPinFindings_of_given hpin).1 hfinding
    obtain ⟨r, hdeclared, htaken, hfirst⟩ := find?_eq_some_iff_first.1 howner
    exact .faultPort hpin hdeclared (beq_iff_eq.1 htaken)
      fun before hlt other hother ↦ beq_eq_false_iff_ne.1 (hfirst before hlt other hother)

theorem hasDefect_of_mem_defects (hentry : entry ∈ program.defects) :
    program.HasDefect entry.1 entry.2 := by
  simp only [defects, conflictDefects, List.flatten_cons, List.flatten_nil, List.append_nil,
    List.mem_append, mem_atEach, Position.mem_entries, List.mem_filter, List.mem_singleton,
    mem_initialFindings] at hentry
  obtain ⟨index, conflict, hrecorded, hposition, hfinding, hsevere⟩ | ⟨s, state, hlisted, hentry⟩ |
    ⟨hposition, hmissing, hfinding⟩ | ⟨hposition, hfinding⟩ := hentry
  · rw [hfinding] at hsevere
    rw [hposition, hfinding]
    exact .conflict hrecorded hsevere
  · exact hasDefect_of_mem_stateDefects hlisted hentry
  · rw [hposition, hfinding]
    exact .initial hmissing
  · rw [hposition]
    exact hasDefect_of_mem_faultPinFindings hfinding

end OfMem

/-! Each defect has its entry. -/

section MemOf

variable {s : Nat} {state : State} {entry : Position × Diagnostic}

theorem mem_defects_of_mem_stateDefects (hlisted : program.states[s]? = some state)
    (hentry : entry ∈ program.stateDefects s state) : entry ∈ program.defects := by
  have hstates : entry ∈ atEach program.states program.stateDefects :=
    mem_atEach.2 ⟨s, state, hlisted, hentry⟩
  simp [defects, hstates]

theorem mem_defects_of_mem_transitionDefects {t : Nat} {transition : Transition}
    (hlisted : program.states[s]? = some state) (hleaves : state.transitions[t]? = some transition)
    (hentry : entry ∈ program.transitionDefects s t transition) : entry ∈ program.defects := by
  have htransitions : entry ∈ atEach state.transitions (program.transitionDefects s) :=
    mem_atEach.2 ⟨t, transition, hleaves, hentry⟩
  apply mem_defects_of_mem_stateDefects hlisted
  simp [stateDefects, htransitions]

theorem mem_defects_of_mem_faultPinFindings {finding : Diagnostic}
    (hfinding : finding ∈ program.faultPinFindings) :
    (program.faultPinPosition, finding) ∈ program.defects := by
  simp [defects, Position.mem_entries, hfinding]

theorem mem_defects_of_hasDefect {position : Position} {finding : Diagnostic}
    (hdefect : program.HasDefect position finding) : (position, finding) ∈ program.defects := by
  cases hdefect with
  | @conflict index conflict hrecorded hsevere =>
    have hconflict : (Position.conflict index,
        { conflict with origin := program.place conflict.origin }) ∈ program.conflictDefects :=
      mem_atEach.2 ⟨index, conflict, hrecorded,
        Position.mem_entries.2 ⟨rfl, List.mem_filter.2 ⟨List.mem_singleton_self _, hsevere⟩⟩⟩
    simp [defects, hconflict]
  | @action s a state action hlisted hperformed hundeclared =>
    have haction : (Position.action s a, (Problem.undeclaredResource action.target).report
        (program.place action.origin)) ∈ program.actionDefects s state :=
      mem_atEach.2 ⟨a, action, hperformed, Position.mem_entries.2 ⟨rfl,
        mem_resourceFindings.2 ⟨_, List.mem_singleton_self _, hundeclared, rfl⟩⟩⟩
    apply mem_defects_of_mem_stateDefects hlisted
    exact List.mem_flatten_of_mem List.mem_cons_self haction
  | @sensor s t r state transition sensor hlisted hleaves hread hundeclared =>
    have hsensor : (Position.sensor s t r, (Problem.undeclaredResource sensor).report
        (program.place transition.origin)) ∈ program.sensorDefects s t transition :=
      mem_atEach.2 ⟨r, sensor, hread, Position.mem_entries.2 ⟨rfl,
        mem_resourceFindings.2 ⟨_, List.mem_singleton_self _, hundeclared, rfl⟩⟩⟩
    apply mem_defects_of_mem_transitionDefects hlisted hleaves
    exact List.mem_flatten_of_mem List.mem_cons_self hsensor
  | target hlisted hleaves hundeclared =>
    apply mem_defects_of_mem_transitionDefects hlisted hleaves
    apply List.mem_flatten_of_mem (List.mem_cons_of_mem _ List.mem_cons_self)
    exact Position.mem_entries.2 ⟨rfl, mem_targetFindings.2 ⟨hundeclared, rfl⟩⟩
  | repetition hlisted hlt hagain hsame =>
    apply mem_defects_of_mem_stateDefects hlisted
    apply List.mem_flatten_of_mem
      (List.mem_cons_of_mem _ (List.mem_cons_of_mem _ List.mem_cons_self))
    exact Position.mem_entries.2
      ⟨rfl, mem_repetitionFindings.2 ⟨⟨_, _, hlt, hagain, hsame⟩, rfl⟩⟩
  | initial hmissing =>
    apply List.mem_flatten_of_mem
      (List.mem_cons_of_mem _ (List.mem_cons_of_mem _ List.mem_cons_self))
    exact Position.mem_entries.2 ⟨rfl, mem_initialFindings.2 ⟨hmissing, rfl⟩⟩
  | faultPin hpin hlisted hfault hfirst =>
    have hposition : Position.faultPin = program.faultPinPosition := by
      simp [faultPinPosition, hpin]
    rw [hposition]
    exact mem_defects_of_mem_faultPinFindings ((mem_faultPinFindings_of_missing hpin).2
      ⟨_, find?_eq_some_iff_first.2 ⟨_, hlisted, hfault, hfirst⟩, rfl⟩)
  | faultPort hpin hdeclared htaken hfirst =>
    have hposition : Position.faultPort = program.faultPinPosition := by
      simp [faultPinPosition, hpin]
    rw [hposition]
    exact mem_defects_of_mem_faultPinFindings ((mem_faultPinFindings_of_given hpin).2
      ⟨_, find?_eq_some_iff_first.2 ⟨_, hdeclared, beq_iff_eq.2 htaken,
        fun before hlt other hother ↦ beq_eq_false_iff_ne.2 (hfirst before hlt other hother)⟩,
        rfl⟩)

end MemOf

/-! ## Repetitions -/

theorem countP_eq_zero_of_code {findings : List Diagnostic} {codes : List DiagnosticCode}
    {code : DiagnosticCode} (hcodes : ∀ finding ∈ findings, finding.code ∈ codes)
    (hcode : code ∉ codes) : findings.countP (·.code == code) = 0 := by
  rw [List.countP_eq_zero]
  intro finding hfinding hsame
  rw [← beq_iff_eq.1 hsame] at hcode
  exact hcode (hcodes finding hfinding)

/-- All but the last state of each name are repeated. -/
theorem countP_stateFindings (states : List State) :
    (program.stateFindings states).countP (·.code == .duplicateStateName) +
      (states.map (·.name)).dedup.length = states.length := by
  induction states with
  | nil => rfl
  | cons state later ih =>
    have hactions : ∀ finding ∈ state.actions.flatMap program.actionFindings,
        finding.code ∈ [.undeclaredResource] := by
      intro finding hfinding
      obtain ⟨action, -, hfinding⟩ := List.mem_flatMap.1 hfinding
      exact List.mem_singleton.2 (code_of_mem_resourceFindings hfinding)
    have htransitions : ∀ finding ∈ state.transitions.flatMap program.transitionFindings,
        finding.code ∈ [.undeclaredResource, .undeclaredState] := by
      intro finding hfinding
      obtain ⟨transition, -, hfinding⟩ := List.mem_flatMap.1 hfinding
      exact code_of_mem_transitionFindings hfinding
    rw [stateFindings, List.countP_append, List.countP_append, List.countP_append,
      countP_eq_zero_of_code hactions (by decide), countP_eq_zero_of_code htransitions (by decide),
      List.map_cons, List.length_cons]
    by_cases hmem : state.name ∈ later.map (·.name)
    · have hrepeated : (program.repetitionFindings state later).countP
          (·.code == .duplicateStateName) = 1 := by
        have hany : later.any (·.name == state.name) = true := by simpa using hmem
        rw [repetitionFindings, if_pos hany]
        rfl
      rw [List.dedup_cons_of_mem hmem, hrepeated]
      omega
    · rw [List.dedup_cons_of_notMem hmem, (repetitionFindings_eq_nil_iff _ _ _).2 hmem,
        List.length_cons, List.countP_nil]
      omega

theorem countP_errors (hreachable : program.registry.Reachable) :
    (Report.ofDiagnostics program.findings).errors.countP (·.code == .duplicateStateName) +
      program.stateNames.dedup.length = program.states.length := by
  have hconflicts : ∀ finding ∈ program.conflictFindings.filter (·.isError),
      finding.code ∈ [.duplicateResourceName, .duplicatePort] :=
    fun finding hfinding ↦ code_of_mem_conflictFindings hreachable (List.mem_filter.1 hfinding).1
  have hinitial : ∀ finding ∈ program.initialFindings, finding.code ∈ [.missingInitialState] :=
    fun finding hfinding ↦ List.mem_singleton.2 (code_of_mem_initialFindings hfinding)
  have hfault : ∀ finding ∈ program.faultPinFindings,
      finding.code ∈ [.missingFaultPin, .duplicatePort] :=
    fun finding ↦ code_of_mem_faultPinFindings
  rw [errors_ofDiagnostics_findings, List.countP_append, List.countP_append, List.countP_append,
    countP_eq_zero_of_code hconflicts (by decide), countP_eq_zero_of_code hinitial (by decide),
    countP_eq_zero_of_code hfault (by decide), Nat.zero_add, Nat.add_zero]
  exact countP_stateFindings program.states

/-- The errors that are reported are those of all defects, in the order of their positions and each
of them once.  No report is given if the count of markings or a taken fault pin has to be told and
has too many digits. -/
theorem validate_reports_defects (program : Program) :
    ((program.hasWideFaultPin || program.hasWideMarkings) = true →
      program.validate = .error .numeralTooWide) ∧
    ((program.hasWideFaultPin || program.hasWideMarkings) = false →
      ∃ (report : Report) (entries : List (Position × Diagnostic)),
        program.validate = .ok report ∧ report.errors = entries.map (·.2) ∧
        (∀ position finding, (position, finding) ∈ entries ↔ program.HasDefect position finding) ∧
        entries.Pairwise (fun first second ↦ first.1.rank < second.1.rank) ∧
        (program.registry.Reachable →
          (∀ conflict ∈ program.registry.conflicts, conflict.isError = true) ∧
          report.errors.countP (·.code == .duplicateStateName) +
            program.stateNames.dedup.length = program.states.length)) := by
  constructor
  · intro hwide
    have htellable : program.isTellable = false := by
      have hnot : program.isTellable = (!program.hasWideFaultPin && !program.hasWideMarkings) := rfl
      rw [hnot, ← Bool.not_or, hwide, Bool.not_true]
    rw [validate, htellable]
    rfl
  · intro hwide
    obtain ⟨hpin, hmarkings⟩ := Bool.or_eq_false_iff.1 hwide
    refine ⟨Report.ofDiagnostics program.findings, program.defects,
      (validate_eq_ok_iff _ _).2 ⟨hpin, hmarkings, rfl⟩, program.map_snd_defects.symm,
      fun position finding ↦ ⟨hasDefect_of_mem_defects, mem_defects_of_hasDefect⟩,
      program.ordered_defects.pairwise, fun hreachable ↦ ?_⟩
    exact ⟨fun conflict ↦ hreachable.isError_of_mem, countP_errors hreachable⟩

end Program

/-- A program with many defects: both resources have one name and one port, the states of the name
`idle` use a resource and a sensor that were never declared, and no state is the initial one. -/
def derelict : Program where
  name := "Derelict"
  registry :=
    let lamp : Resource := { name := "lamp", kind := .actuator, port := 4 }
    ((({} : Registry).register lamp).2.register { lamp with origin := { line := some 3 } }).2
  states := [
    { name := "idle"
      body := .normal [{ target := "siren", level := .high }]
        [{ trigger := .guard (.both (.reads "door" .high) (.reads "door" .low))
           target := "alert" }] },
    { name := "broken", body := .fault 2 },
    { name := "idle" }]
  initial := some "start"

namespace Program

theorem derelict_reported :
    let initial : Diagnostic :=
      { code := .missingInitialState, message := "no initial state declared"
        suggestion := some "Mark exactly one state as initial." }
    ∃ report, derelict.validate = .ok report ∧
      report.errors = [
        { code := .duplicateResourceName, message := "name 'lamp' was already used"
          origin := { line := some 3, file := none } },
        { code := .duplicatePort, message := "port 4 was already used by 'lamp'"
          origin := { line := some 3, file := none } },
        { code := .undeclaredResource, message := "undeclared 'siren'" },
        { code := .undeclaredResource, message := "undeclared 'door'" },
        { code := .undeclaredResource, message := "undeclared 'door'" },
        { code := .undeclaredState, message := "undeclared state 'alert'"
          suggestion := some "Declare the target state or fix the transition's target name." },
        { code := .duplicateStateName, message := "duplicate state name: 'idle'" },
        initial,
        { code := .missingFaultPin
          message := "a fault pin is required when fault states are defined"
          suggestion := some "Pass fault_pin=<pin> when creating the program." }] ∧
      ∃ entries : List (Position × Diagnostic), report.errors = entries.map (·.2) ∧
        (Position.initial, initial) ∈ entries ∧
        entries.Pairwise (fun first second ↦ first.1.rank < second.1.rank) := by
  intro initial
  have hreport : derelict.validate = .ok (Report.ofDiagnostics derelict.findings) := by
    decide +kernel
  obtain ⟨report, entries, hvalidate, herrors, hmem, hordered, -⟩ :=
    (validate_reports_defects derelict).2 (by decide +kernel)
  obtain rfl := Except.ok.inj (hreport.symm.trans hvalidate)
  have hmissing : ∀ name, derelict.initial = some name → name ∉ derelict.stateNames := by
    intro name hname
    obtain rfl : "start" = name := Option.some.inj hname
    decide
  have hinitial : derelict.HasDefect .initial initial := .initial hmissing
  exact ⟨_, hreport, by decide +kernel, entries, herrors, (hmem _ _).2 hinitial, hordered⟩

/-- A program without a state, marked more often than can be told. -/
def vacant : Program :=
  { name := "Vacant", initialMarkings := Text.leastWide }

/-- A count that cannot be told hides the defects. -/
theorem vacant_unreported :
    vacant.HasDefect .initial (Problem.missingInitialState.report {}) ∧
      vacant.validate = .error .numeralTooWide := by
  have hmissing : ∀ name, vacant.initial = some name → name ∉ vacant.stateNames := by
    intro name hname
    cases hname
  exact ⟨.initial hmissing, by decide +kernel⟩

end Program

end StateSketch
