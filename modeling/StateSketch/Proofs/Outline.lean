import StateSketch.Proofs.Wiring.Injectivity

/-!
# What a sketch tells of its program

The outline of a program is the program with symbols in the place of names, without the places of
declaration.  It can be taken from the sketch as well: each part of a program is found at its place
in the sketch, where nothing else stands.  A text that was compiled therefore settles the outline,
since it settles the sketch.
-/

namespace StateSketch

/-! ## Other names -/

def Resource.relabel (pin : String → String) (resource : Resource) : Resource where
  name := pin resource.name
  kind := resource.kind
  port := resource.port

def Action.relabel (pin : String → String) (action : Action) : Action where
  target := pin action.target
  level := action.level

def Trigger.relabel (pin : String → String) : Trigger → Trigger
  | .guard condition => .guard (condition.rename pin)
  | .delay milliseconds => .delay milliseconds

def Transition.relabel (pin function : String → String) (transition : Transition) : Transition where
  trigger := transition.trigger.relabel pin
  target := function transition.target

/-- The state with other names, and with no places of declaration. -/
def State.relabel (pin function : String → String) (state : State) : State where
  name := function state.name
  body :=
    match state.body with
    | .normal actions transitions =>
      .normal (actions.map (·.relabel pin)) (transitions.map (·.relabel pin function))
    | .fault blinks => .fault blinks

/-- A program and its debounce interval, with symbols in the place of names. -/
structure Outline where
  name : String
  debounce : Nat
  faultPin : Option Nat
  resources : List Resource
  states : List State
  initial : Option String
deriving DecidableEq

def Program.outline (program : Program) (debounce : Nat) : Outline where
  name := program.name
  debounce := debounce
  faultPin := program.faultPin
  resources := program.registry.resources.map (·.relabel program.table.pinName)
  states := program.states.map (·.relabel program.table.pinName program.table.functionName)
  initial := program.initial.map program.table.functionName

/-! ## The outline in a sketch -/

def PinMode.kind : PinMode → ResourceKind
  | .input => .sensor
  | .output => .actuator

namespace Step

/-- The kind of the resource that a step configures. -/
def kind? : Step → Option ResourceKind
  | .configure _ mode => some mode.kind
  | _ => none

def called? : Step → Option String
  | .call function => some function
  | _ => none

end Step

def Test.trigger : Test → Trigger
  | .settled condition => .guard condition
  | .elapsed milliseconds => .delay milliseconds

def Branch.transition (branch : Branch) : Transition where
  trigger := branch.test.trigger
  target := (branch.body.findSome? (·.called?)).getD ""

namespace Statement

def blinks? : Statement → Option Nat
  | .step (.blink count) => some count
  | _ => none

def action? : Statement → Option Action
  | .step (.write pin level) => some { target := pin, level := level }
  | _ => none

def transitions : Statement → List Transition
  | .choose first rest _ => (first :: rest).map (·.transition)
  | _ => []

end Statement

def Function.outline (function : Function) : State where
  name := function.name
  body :=
    match function.body.findSome? (·.blinks?) with
    | some blinks => .fault blinks
    | none => .normal (function.body.filterMap (·.action?)) (function.body.flatMap (·.transitions))

namespace Sketch

/-- The steps that configure resources.  Those for the fault indicator stand before them. -/
def configurations (sketch : Sketch) : List Step :=
  sketch.setup.drop (if sketch.blinks then 2 else 0)

def outline (sketch : Sketch) : Outline where
  name := sketch.title
  debounce := sketch.debounce
  faultPin := sketch.faultPin
  resources :=
    sketch.pins.zipWith (fun declaration kind ↦ ⟨declaration.pin, kind, declaration.port, {}⟩)
      (sketch.configurations.filterMap (·.kind?))
  states := sketch.functions.map (·.outline)
  initial := some sketch.entry

end Sketch

/-! ## Both outlines agree -/

theorem Resource.kind_pinMode (resource : Resource) : resource.pinMode.kind = resource.kind := by
  unfold pinMode
  cases resource.kind <;> rfl

namespace SymbolTable

variable (table : SymbolTable)

theorem trigger_testOf (trigger : Trigger) :
    (table.testOf trigger).trigger = trigger.relabel table.pinName := by
  cases trigger <;> rfl

theorem transition_branchOf (transition : Transition) :
    (table.branchOf transition).transition =
      transition.relabel table.pinName table.functionName := by
  unfold Branch.transition Transition.relabel
  rw [← trigger_testOf]
  rfl

/-- The dispatch neither blinks nor writes. -/
theorem silent_of_mem_dispatchOf {state : State} {statement : Statement}
    (hstatement : statement ∈ table.dispatchOf state) :
    statement.blinks? = none ∧ statement.action? = none := by
  revert statement
  unfold dispatchOf sampleOf
  cases state.transitions with
  | nil => simp [Statement.blinks?, Statement.action?]
  | cons first rest =>
    dsimp only
    split <;> simp [Statement.blinks?, Statement.action?]

theorem transitions_dispatchOf (state : State) :
    (table.dispatchOf state).flatMap (·.transitions) =
      state.transitions.map (·.relabel table.pinName table.functionName) := by
  have hbranches (edges : List Transition) :
      (edges.map table.branchOf).map (·.transition) =
        edges.map (·.relabel table.pinName table.functionName) := by
    rw [List.map_map]
    exact List.map_congr_left fun edge _ ↦ table.transition_branchOf edge
  unfold dispatchOf sampleOf
  cases state.transitions with
  | nil => rfl
  | cons first rest =>
    have hchoice : (Statement.choose (table.branchOf first) (rest.map table.branchOf)
        [.call (table.functionName state.name)]).transitions =
          (first :: rest).map (·.relabel table.pinName table.functionName) :=
      hbranches (first :: rest)
    rw [List.flatMap_append, List.flatMap_singleton, hchoice]
    split <;> rfl

theorem outline_functionOf (state : State) :
    (table.functionOf state).outline = state.relabel table.pinName table.functionName := by
  unfold functionOf Function.outline State.relabel
  cases hbody : state.body with
  | fault blinks => rfl
  | normal actions transitions =>
    have htransitions : state.transitions = transitions := by simp [State.transitions, hbody]
    -- Writes are actions and nothing else, the dispatch holds transitions and nothing else.
    have hblinks :
        ((actions.map table.writeOf).map Statement.step).findSome? (·.blinks?) = none := by
      simp [writeOf, Statement.blinks?]
    have hactions : ((actions.map table.writeOf).map Statement.step).filterMap (·.action?) =
        actions.map (·.relabel table.pinName) := by
      simp [Function.comp_def, writeOf, Statement.action?, Action.relabel]
    have hchoices :
        ((actions.map table.writeOf).map Statement.step).flatMap (·.transitions) = [] := by
      simp [writeOf, Statement.transitions]
    have hsteady : (table.dispatchOf state).findSome? (·.blinks?) = none :=
      List.findSome?_eq_none_iff.2 fun _ hmem ↦ (table.silent_of_mem_dispatchOf hmem).1
    have hreading : (table.dispatchOf state).filterMap (·.action?) = [] :=
      List.filterMap_eq_nil_iff.2 fun _ hmem ↦ (table.silent_of_mem_dispatchOf hmem).2
    dsimp only
    rw [List.findSome?_append, List.filterMap_append, List.flatMap_append, hblinks, hactions,
      hchoices, hsteady, hreading, transitions_dispatchOf, htransitions, List.append_nil]
    rfl

end SymbolTable

namespace Program

variable {program first second : Program} {debounce interval : Nat} {text : String}

theorem kinds_sketchOf (program : Program) (debounce : Nat) :
    (program.sketchOf debounce).configurations.filterMap (·.kind?) =
      program.registry.resources.map (·.kind) := by
  have hconfigurations : (program.sketchOf debounce).configurations =
      program.registry.resources.map program.table.configurationOf := by
    unfold Sketch.configurations sketchOf
    cases program.hasFaultStates <;> rfl
  rw [hconfigurations, List.filterMap_map]
  have hkind :
      (Step.kind? ∘ program.table.configurationOf) = fun resource ↦ some resource.kind := by
    funext resource
    exact congrArg some resource.kind_pinMode
  rw [hkind]
  exact congrFun List.filterMap_eq_map _

/-- The sketch of a program has its outline. -/
theorem outline_sketchOf (hresolved : program.Resolved) (debounce : Nat) :
    (program.sketchOf debounce).outline = program.outline debounce := by
  obtain ⟨initial, hinitial, -⟩ := hresolved.initial
  have hstates : (program.sketchOf debounce).functions.map (·.outline) =
      program.states.map (·.relabel program.table.pinName program.table.functionName) := by
    unfold sketchOf
    rw [List.map_map]
    exact List.map_congr_left fun state _ ↦ program.table.outline_functionOf state
  unfold Sketch.outline outline
  rw [kinds_sketchOf, hstates, hinitial]
  unfold sketchOf
  rw [hinitial, List.zipWith_map, List.zipWith_self]
  rfl

theorem source_compile_eq_iff :
    (program.compile debounce).1.map (·.source) = .ok (some text) ↔
      program.hasWideCompilation debounce = false ∧
        (Report.ofDiagnostics program.findings).errors = [] ∧
        (program.sketchOf debounce).text = text := by
  rw [compile_eq]
  cases program.hasWideCompilation debounce with
  | true => simp [Except.map]
  | false =>
    unfold emissionOf
    cases (Report.ofDiagnostics program.findings).errors <;> simp [Except.map]

/-- Only a program whose names are all known is compiled to a text. -/
theorem resolved_of_compile
    (hcompiled : (program.compile debounce).1.map (·.source) = .ok (some text)) :
    program.Resolved :=
  ((errors_ofDiagnostics_findings_eq_nil_iff _).1 (source_compile_eq_iff.1 hcompiled).2.1).2

/-- Programs that are compiled to the same text have the same outline. -/
theorem outline_eq_of_compile_eq (hfirst : first.IsConstructed) (hsecond : second.IsConstructed)
    (hcompiled : (first.compile debounce).1.map (·.source) = .ok (some text))
    (hsame : (second.compile interval).1.map (·.source) = .ok (some text)) :
    first.outline debounce = second.outline interval := by
  have hresolved := resolved_of_compile hcompiled
  have hresolvedSecond := resolved_of_compile hsame
  have htext : (first.sketchOf debounce).text = (second.sketchOf interval).text :=
    (source_compile_eq_iff.1 hcompiled).2.2.trans (source_compile_eq_iff.1 hsame).2.2.symm
  have hsketch : first.sketchOf debounce = second.sketchOf interval :=
    (legible_sketchOf hfirst hresolved debounce).eq_of_text_eq
      (legible_sketchOf hsecond hresolvedSecond interval) htext
  calc
    first.outline debounce = (first.sketchOf debounce).outline :=
      (outline_sketchOf hresolved debounce).symm
    _ = (second.sketchOf interval).outline := congrArg Sketch.outline hsketch
    _ = second.outline interval := outline_sketchOf hresolvedSecond interval

end Program

/-- Another spelling of a name, with the same symbol. -/
def respell (name : String) : String :=
  if name = "motor+" then "motor*" else name

/-- The barrier in another spelling, from a known file. -/
def respelledBarrier : Program :=
  { barrier with
    registry := { resources := barrier.registry.resources.map (·.relabel respell) }
    states := barrier.states.map (·.relabel respell id)
    endLine := some 40
    file := some "barrier" }

theorem Program.respelledBarrier_same_outline :
    ∃ text, (barrier.compile 50).1.map (·.source) = .ok (some text) ∧
      (respelledBarrier.compile 50).1.map (·.source) = .ok (some text) ∧
      respelledBarrier ≠ barrier ∧ barrier.outline 50 = respelledBarrier.outline 50 := by
  have hconstructed : barrier.IsConstructed := ⟨.text "barrier", .integer 13, 1, by decide +kernel⟩
  have hrespelled : respelledBarrier.IsConstructed :=
    ⟨.text "barrier", .integer 13, 1, by decide +kernel⟩
  have hsketch : respelledBarrier.sketchOf 50 = barrier.sketchOf 50 := by decide +kernel
  have hcompiled : (barrier.compile 50).1.map (·.source) = .ok (some (barrier.sketchOf 50).text) :=
    source_compile_eq_iff.2 ⟨by decide +kernel, by decide +kernel, rfl⟩
  have hsame : (respelledBarrier.compile 50).1.map (·.source) =
      .ok (some (barrier.sketchOf 50).text) :=
    source_compile_eq_iff.2 ⟨by decide +kernel, by decide +kernel, congrArg Sketch.text hsketch⟩
  exact ⟨_, hcompiled, hsame, by decide +kernel,
    outline_eq_of_compile_eq hconstructed hrespelled hcompiled hsame⟩

end StateSketch
