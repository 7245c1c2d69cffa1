import StateSketch.Proofs.Compilation
import StateSketch.Session.Builders

/-!
# The books of a builder

A builder may be called in any order, with any arguments, and calls may be refused.  Its program
holds what came of the calls that were not refused, in the order of the calls; the last line of the
program is the furthest line that any call resolved, even one that was refused later on.
-/

namespace StateSketch

/-! ## Rows of calls -/

section Moments

variable {σ κ : Type} {step : σ → κ → σ}

/-- Each call of a row with the state in which it is made. -/
def moments (step : σ → κ → σ) : σ → List κ → List (σ × κ)
  | _, [] => []
  | state, call :: rest => (state, call) :: moments step (step state call) rest

/-- What holds at the start and is kept by every call holds after a row of calls. -/
theorem moments_induction {P : List (σ × κ) → σ → Prop}
    (hstep : ∀ past state call, P past state → P (past ++ [(state, call)]) (step state call))
    {start : σ} (hstart : P [] start) (calls : List κ) :
    P (moments step start calls) (calls.foldl step start) := by
  -- The calls made before are carried along, so that the induction can take up the next call.
  have hcarried : ∀ (calls : List κ) (past : List (σ × κ)) (state : σ), P past state →
      P (past ++ moments step state calls) (calls.foldl step state) := by
    intro calls
    induction calls with
    | nil =>
      intro past state hpast
      rwa [moments, List.append_nil]
    | cons call rest ih =>
      intro past state hpast
      have hnext := ih _ _ (hstep past state call hpast)
      rwa [List.append_assoc] at hnext
  exact hcarried calls [] start hstart

theorem filterMap_concat {α β : Type} (f : α → Option β) (items : List α) (item : α) :
    (items ++ [item]).filterMap f = items.filterMap f ++ (f item).toList := by
  rw [List.filterMap_append, List.filterMap_cons, List.filterMap_nil]
  cases f item <;> rfl

end Moments

/-- A call on a builder. -/
inductive BuilderCall where
  /-- Changes the line of parts that name none. -/
  | setLine (line : Option Int)
  | registerResource (port : Argument) (kind : Except Fault ResourceKind) (name : Argument)
    (origin : Origin)
  | makeGuard (kind : Except Fault GuardKind) (operands : List Argument)
  | makeAction (target level : Argument) (origin : Origin)
  | makeTransition (trigger target : Argument) (origin : Origin)
  | makeState (name : Argument) (actions transitions : Argument.Items) (initial : Bool)
    (origin : Origin)
  | makeFaultState (name blinks : Argument) (origin : Origin)

namespace BuilderCall

/-- Whether a call is refused, and the builder after it. -/
def run (builder : Builder) : BuilderCall → Except Fault Unit × Builder
  | .setLine line => (.ok (), { builder with line := line })
  | .registerResource port kind name origin =>
    (builder.registerResource port kind name origin).map discard id
  | .makeGuard kind operands => (discard (Guard.ofKind kind operands), builder)
  | .makeAction target level origin => (builder.makeAction target level origin).map discard id
  | .makeTransition trigger target origin =>
    (builder.makeTransition trigger target origin).map discard id
  | .makeState name actions transitions initial origin =>
    (builder.makeState name actions transitions initial origin).map discard id
  | .makeFaultState name blinks origin =>
    (builder.makeFaultState name blinks origin).map discard id

def perform (builder : Builder) (call : BuilderCall) : Builder :=
  (call.run builder).2

/-! What comes of a call that is made on a builder. -/

def assigned? : Builder × BuilderCall → Option (Option Int)
  | (_, .setLine line) => some line
  | _ => none

def resource? : Builder × BuilderCall → Option Resource
  | (builder, .registerResource port kind name origin) =>
    (builder.registerResource port kind name origin).1.toOption
  | _ => none

def state? : Builder × BuilderCall → Option State
  | (builder, .makeState name actions transitions initial origin) =>
    (builder.makeState name actions transitions initial origin).1.toOption
  | (builder, .makeFaultState name blinks origin) =>
    (builder.makeFaultState name blinks origin).1.toOption
  | _ => none

/-- The name of a state that is made and marked as the initial one. -/
def marked? : Builder × BuilderCall → Option String
  | (builder, .makeState name actions transitions true origin) =>
    (builder.makeState name actions transitions true origin).1.toOption.map (·.name)
  | _ => none

/-- The line of a call that gets as far as resolving one, if there is a line at all: a resource gets
there if its kind is known, a state if its actions and its transitions can be gone through. -/
def line? : Builder × BuilderCall → Option Int
  | (builder, .registerResource _ (.ok _) _ origin) => origin.line <|> builder.line
  | (builder, .makeAction _ _ origin) => origin.line <|> builder.line
  | (builder, .makeTransition _ _ origin) => origin.line <|> builder.line
  | (builder, .makeState _ (.ok _) (.ok _) _ origin) => origin.line <|> builder.line
  | (builder, .makeFaultState _ _ origin) => origin.line <|> builder.line
  | _ => none

theorem exists_state_of_marked? {moment : Builder × BuilderCall} {name : String}
    (hmarked : marked? moment = some name) :
    ∃ state, state? moment = some state ∧ state.name = name := by
  unfold marked? at hmarked
  split at hmarked
  · exact Option.map_eq_some_iff.1 hmarked
  · cases hmarked

end BuilderCall

/-! ## One call -/

/-- What a call makes of a program: there may be a resource and a state more, the state may be
marked as the initial one, and the program may end later. -/
structure Program.Gains (before : Program) (line : Option Int) (resource : Option Resource)
    (state : Option State) (marked : Option String) (after : Program) : Prop where
  registry : before.registry.Reachable → after.registry.Reachable
  resources : after.registry.resources = before.registry.resources ++ resource.toList
  states : after.states = before.states ++ state.toList
  initial : after.initial = marked.or before.initial
  initialMarkings : after.initialMarkings = before.initialMarkings + marked.toList.length
  endLine : after.endLine = max before.endLine line

namespace Program

variable {program : Program} {line : Option Int} {resource : Option Resource}
  {state : Option State} {marked : Option String} {after : Program}

@[simp]
theorem initial_reachLine (program : Program) (line : Option Int) :
    (program.reachLine line).initial = program.initial := by
  unfold reachLine
  split <;> rfl

@[simp]
theorem initialMarkings_reachLine (program : Program) (line : Option Int) :
    (program.reachLine line).initialMarkings = program.initialMarkings := by
  unfold reachLine
  split <;> rfl

@[simp]
theorem endLine_reachLine_eq_max (program : Program) (line : Option Int) :
    (program.reachLine line).endLine = max program.endLine line := by
  unfold reachLine
  cases line with
  | none => rw [Option.max_none_right]
  | some line => cases program.endLine <;> rfl

namespace Gains

theorem refl (program : Program) : program.Gains none none none none program where
  registry := id
  resources := (List.append_nil _).symm
  states := (List.append_nil _).symm
  initial := rfl
  initialMarkings := (Int.add_zero _).symm
  endLine := Option.max_none_right.symm

/-- The line is reached before anything is added. -/
theorem of_reachLine
    (hgains : (program.reachLine line).Gains none resource state marked after) :
    program.Gains line resource state marked after where
  registry := by simpa using hgains.registry
  resources := by simpa using hgains.resources
  states := by simpa using hgains.states
  initial := by simpa using hgains.initial
  initialMarkings := by simpa using hgains.initialMarkings
  endLine := by simpa using hgains.endLine

theorem addState (program : Program) (state : State) (initial : Bool) :
    program.Gains none none (some state) (if initial then some state.name else none)
      (program.addState state initial) := by
  cases initial with
  | false => exact { refl program with states := rfl }
  | true => exact { refl program with states := rfl, initial := rfl, initialMarkings := rfl }

theorem addResource (program : Program) (resource : Resource) :
    program.Gains none ((Builder.addResource program resource).1.toOption.map fun _ ↦ resource)
      none none (Builder.addResource program resource).2 := by
  have hreachable := fun h : program.registry.Reachable ↦ h.register resource
  unfold Builder.addResource
  unfold Registry.register at hreachable ⊢
  split at hreachable <;> rename_i htellable
  · rw [if_pos htellable]
    exact { refl program with registry := hreachable, resources := rfl }
  · rw [if_neg htellable]
    exact { refl program with registry := hreachable }

end Gains

end Program

namespace Builder

variable {α : Type} {builder : Builder} {origin : Origin} {make : Origin → Except Fault α}
  {add : Program → α → Except Fault Unit × Program}

/-- A part that is refused still moves the end of the program. -/
theorem construct_of_error {fault : Fault} (hmake : make (builder.locate origin) = .error fault) :
    builder.construct origin make add =
      (.error fault,
        { builder with program := builder.program.reachLine (builder.locate origin).line }) := by
  unfold construct
  dsimp only
  rw [hmake]

theorem construct_of_ok {part : α} (hmake : make (builder.locate origin) = .ok part) :
    builder.construct origin make add =
      let added := add (builder.program.reachLine (builder.locate origin).line) part
      (added.1.map fun _ ↦ part, { builder with program := added.2 }) := by
  unfold construct
  dsimp only
  rw [hmake]

theorem line_construct (builder : Builder) (origin : Origin) (make : Origin → Except Fault α)
    (add : Program → α → Except Fault Unit × Program) :
    (builder.construct origin make add).2.line = builder.line := by
  cases hmake : make (builder.locate origin) with
  | error fault => rw [construct_of_error hmake]
  | ok part => rw [construct_of_ok hmake]

end Builder

namespace Program.Gains

variable (builder : Builder) (origin : Origin)

theorem construct_addNothing {α : Type} (make : Origin → Except Fault α) :
    builder.program.Gains (builder.locate origin).line none none none
      (builder.construct origin make Builder.addNothing).2.program := by
  apply of_reachLine
  cases hmake : make (builder.locate origin) with
  | error fault =>
    rw [Builder.construct_of_error hmake]
    exact refl _
  | ok part =>
    rw [Builder.construct_of_ok hmake]
    exact refl _

theorem construct_addResource (make : Origin → Except Fault Resource) :
    let made := builder.construct origin make Builder.addResource
    builder.program.Gains (builder.locate origin).line made.1.toOption none none
      made.2.program := by
  apply of_reachLine
  cases hmake : make (builder.locate origin) with
  | error fault =>
    rw [Builder.construct_of_error hmake]
    exact refl _
  | ok resource =>
    have hadded := addResource (builder.program.reachLine (builder.locate origin).line) resource
    rw [Builder.construct_of_ok hmake]
    dsimp only at hadded ⊢
    cases hresult : (Builder.addResource _ resource).1 <;> rwa [hresult] at hadded

theorem construct_addState (make : Origin → Except Fault State) (initial : Bool) :
    let made := builder.construct origin make (Builder.addState initial)
    builder.program.Gains (builder.locate origin).line none made.1.toOption
      (if initial then made.1.toOption.map (·.name) else none) made.2.program := by
  apply of_reachLine
  cases hmake : make (builder.locate origin) with
  | error fault =>
    rw [Builder.construct_of_error hmake]
    cases initial <;> exact refl _
  | ok state =>
    rw [Builder.construct_of_ok hmake]
    exact addState _ state initial

/-- Every call adds to the program what comes of it, and nothing else. -/
theorem perform (call : BuilderCall) :
    builder.program.Gains (BuilderCall.line? (builder, call))
      (BuilderCall.resource? (builder, call)) (BuilderCall.state? (builder, call))
      (BuilderCall.marked? (builder, call)) (call.perform builder).program := by
  cases call with
  | setLine line => exact refl _
  | registerResource port kind name origin =>
    cases kind with
    | error fault => exact refl _
    | ok kind => exact construct_addResource builder origin _
  | makeGuard kind operands => exact refl _
  | makeAction target level origin => exact construct_addNothing builder origin _
  | makeTransition trigger target origin => exact construct_addNothing builder origin _
  | makeState name actions transitions initial origin =>
    cases actions with
    | error fault => cases initial <;> exact refl _
    | ok actions =>
      cases transitions with
      | error fault => cases initial <;> exact refl _
      | ok transitions => cases initial <;> exact construct_addState builder origin _ _
  | makeFaultState name blinks origin => exact construct_addState builder origin _ false

end Program.Gains

/-- Only an assignment changes the line of a builder. -/
theorem BuilderCall.line_perform (builder : Builder) (call : BuilderCall) :
    (call.perform builder).line = (assigned? (builder, call)).getD builder.line := by
  cases call with
  | setLine line => rfl
  | registerResource port kind name origin =>
    cases kind with
    | error fault => rfl
    | ok kind =>
      exact builder.line_construct origin (Resource.ofArguments name (.ok kind) port)
        Builder.addResource
  | makeGuard kind operands => rfl
  | makeAction target level origin =>
    exact builder.line_construct origin (Action.ofArguments target level) Builder.addNothing
  | makeTransition trigger target origin =>
    exact builder.line_construct origin (Transition.ofArguments trigger target)
      Builder.addNothing
  | makeState name actions transitions initial origin =>
    cases actions with
    | error fault => rfl
    | ok actions =>
      cases transitions with
      | error fault => rfl
      | ok transitions =>
        exact builder.line_construct origin
          (State.ofArguments name (.ok actions) (.ok transitions) .nothing)
          (Builder.addState initial)
  | makeFaultState name blinks origin =>
    exact builder.line_construct origin (State.ofArguments name (.ok []) (.ok []) blinks)
      (Builder.addState false)

/-! ## All calls -/

/-- What the program of a builder holds after a row of calls. -/
structure Builder.Books (past : List (Builder × BuilderCall)) (builder : Builder) : Prop where
  registry : builder.program.registry.Reachable
  resources : builder.program.registry.resources = past.filterMap BuilderCall.resource?
  states : builder.program.states = past.filterMap BuilderCall.state?
  initial : builder.program.initial = (past.filterMap BuilderCall.marked?).getLast?
  initialMarkings :
    builder.program.initialMarkings = (past.filterMap BuilderCall.marked?).length
  endLine : builder.program.endLine = (past.filterMap BuilderCall.line?).max?
  line : builder.line = (past.filterMap BuilderCall.assigned?).getLast?.join

theorem max?_append_toList (lines : List Int) (line : Option Int) :
    (lines ++ line.toList).max? = max lines.max? line := by
  cases line with
  | none => rw [Option.toList_none, List.append_nil, Option.max_none_right]
  | some line =>
    cases lines with
    | nil => rfl
    | cons first rest =>
      rw [Option.toList_some, List.cons_append, List.max?_cons', List.max?_cons',
        List.foldl_append]
      rfl

theorem Builder.start_eq_ok {name faultPin : Argument} {file : Option String} {builder : Builder}
    (hstart : Builder.start name faultPin file = .ok builder) :
    ∃ checked pin, builder = { program := { name := checked, faultPin := pin, file := file } } := by
  unfold Builder.start Program.start Program.ofArguments at hstart
  cases hname : Program.checkName name with
  | error fault =>
    rw [hname] at hstart
    cases hstart
  | ok checked =>
    cases hpin : faultPin.faultPin with
    | error fault =>
      rw [hname, hpin] at hstart
      cases hstart
    | ok pin =>
      rw [hname, hpin] at hstart
      exact ⟨checked, pin, (Except.ok.inj hstart).symm⟩

namespace Builder.Books

variable {past : List (Builder × BuilderCall)} {builder : Builder}

theorem start {name faultPin : Argument} {file : Option String}
    (hstart : Builder.start name faultPin file = .ok builder) : builder.Books [] := by
  obtain ⟨checked, pin, rfl⟩ := Builder.start_eq_ok hstart
  exact ⟨.empty, rfl, rfl, rfl, rfl, rfl, rfl⟩

/-- The books are kept by every call, refused or not. -/
theorem perform (hbooks : builder.Books past) (call : BuilderCall) :
    (call.perform builder).Books (past ++ [(builder, call)]) := by
  have hgains := Program.Gains.perform builder call
  constructor
  · exact hgains.registry hbooks.registry
  · rw [hgains.resources, hbooks.resources, filterMap_concat]
  · rw [hgains.states, hbooks.states, filterMap_concat]
  · rw [hgains.initial, hbooks.initial, filterMap_concat, List.getLast?_append]
    cases BuilderCall.marked? (builder, call) <;> rfl
  · rw [hgains.initialMarkings, hbooks.initialMarkings, filterMap_concat, List.length_append]
    exact (Int.natCast_add _ _).symm
  · rw [hgains.endLine, hbooks.endLine, filterMap_concat, max?_append_toList]
  · rw [BuilderCall.line_perform, hbooks.line, filterMap_concat, List.getLast?_append]
    cases BuilderCall.assigned? (builder, call) <;> rfl

theorem run (hbooks : builder.Books []) (calls : List BuilderCall) :
    (calls.foldl BuilderCall.perform builder).Books
      (moments BuilderCall.perform builder calls) :=
  moments_induction (fun _ _ call hbooks ↦ hbooks.perform call) hbooks calls

/-- The initial state is among the states once one has been marked. -/
theorem hasInitialState_eq_false_iff (hbooks : builder.Books past) :
    builder.program.hasInitialState = false ↔
      (past.filterMap BuilderCall.marked?).length = 0 := by
  rw [List.length_eq_zero_iff, ← List.getLast?_eq_none_iff, ← hbooks.initial]
  unfold Program.hasInitialState
  cases hinitial : builder.program.initial with
  | none => simp
  | some name =>
    rw [hbooks.initial] at hinitial
    obtain ⟨moment, hmoment, hmarked⟩ :=
      List.mem_filterMap.1 (List.mem_of_getLast? hinitial)
    obtain ⟨state, hstate, rfl⟩ := BuilderCall.exists_state_of_marked? hmarked
    have hlisted : state ∈ builder.program.states := by
      rw [hbooks.states]
      exact List.mem_filterMap.2 ⟨moment, hmoment, hstate⟩
    have hnamed : state.name ∈ builder.program.stateNames := List.mem_map_of_mem hlisted
    simp [hnamed]

theorem hasSeveralMarkings_iff (hbooks : builder.Books past) :
    builder.program.hasSeveralMarkings = true ↔
      2 ≤ (past.filterMap BuilderCall.marked?).length := by
  unfold Program.hasSeveralMarkings
  rw [hbooks.initialMarkings, decide_eq_true_iff]
  omega

end Builder.Books

/-! ## Markings in the report -/

theorem Report.mem_codes_ofDiagnostics {diagnostics : List Diagnostic} {code : DiagnosticCode} :
    code ∈ (ofDiagnostics diagnostics).codes ↔ ∃ finding ∈ diagnostics, finding.code = code := by
  simp only [codes, all, ofDiagnostics, List.mem_map, List.mem_append, List.mem_filter,
    ← and_or_left]
  simp

namespace Program

variable {program : Program} {finding : Diagnostic}

/-- What is said about the initial state comes from the checks of the initial state. -/
theorem mem_initialFindings_or_markingFindings (hreachable : program.registry.Reachable)
    (hfinding : finding ∈ program.findings)
    (hcode : finding.code ∈ [.missingInitialState, .multipleInitialStates]) :
    finding ∈ program.initialFindings ∨ finding ∈ program.markingFindings := by
  have hother : ∀ {codes : List DiagnosticCode}, finding.code ∈ codes →
      ¬ ∀ code ∈ codes, code ∉ [.missingInitialState, .multipleInitialStates] :=
    fun hmem hnone ↦ hnone finding.code hmem hcode
  simp only [findings, List.mem_append] at hfinding
  obtain ((((hconflict | hstate) | hinitial) | hpin) | hname) | hmarking := hfinding
  · exact absurd (by decide) (hother (code_of_mem_conflictFindings hreachable hconflict))
  · exact absurd (by decide) (hother (code_of_mem_stateFindings hstate))
  · exact .inl hinitial
  · exact absurd (by decide) (hother (code_of_mem_faultPinFindings hpin))
  · rw [code_of_mem_nameFindings hname] at hcode
    exact absurd hcode (by decide)
  · exact .inr hmarking

theorem missingInitialState_mem_codes_iff (hreachable : program.registry.Reachable) :
    .missingInitialState ∈ (Report.ofDiagnostics program.findings).codes ↔
      program.hasInitialState = false := by
  rw [Report.mem_codes_ofDiagnostics]
  constructor
  · rintro ⟨finding, hfinding, hcode⟩
    obtain hmem | hmem :=
      mem_initialFindings_or_markingFindings hreachable hfinding (by simp [hcode])
    · unfold initialFindings at hmem
      split at hmem
      · cases hmem
      · rename_i hinitial
        exact Bool.not_eq_true _ ▸ hinitial
    · rw [code_of_mem_markingFindings hmem] at hcode
      cases hcode
  · intro hinitial
    have hmem : Problem.missingInitialState.report ⟨program.endLine, program.file⟩ ∈
        program.findings := by
      simp [findings, initialFindings, hinitial]
    exact ⟨_, hmem, rfl⟩

theorem multipleInitialStates_mem_codes_iff (hreachable : program.registry.Reachable) :
    .multipleInitialStates ∈ (Report.ofDiagnostics program.findings).codes ↔
      program.hasSeveralMarkings = true := by
  rw [Report.mem_codes_ofDiagnostics]
  constructor
  · rintro ⟨finding, hfinding, hcode⟩
    obtain hmem | hmem :=
      mem_initialFindings_or_markingFindings hreachable hfinding (by simp [hcode])
    · rw [code_of_mem_initialFindings hmem] at hcode
      cases hcode
    · unfold markingFindings at hmem
      split at hmem
      · assumption
      · cases hmem
  · intro hmarked
    have hmem : (Problem.severalInitialStates (toString program.initialMarkings)
        (program.initial.getD "None")).report ⟨program.markingLine, program.file⟩ ∈
        program.findings := by
      simp [findings, markingFindings, hmarked]
    exact ⟨_, hmem, rfl⟩

theorem validate_eq_error (hwide : (program.hasWideFaultPin || program.hasWideMarkings) = true) :
    program.validate = .error .numeralTooWide := by
  have htellable : program.isTellable = !(program.hasWideFaultPin || program.hasWideMarkings) :=
    (Bool.not_or _ _).symm
  rw [validate, htellable, hwide]
  rfl

end Program

/-- After any row of calls, refused or not, the program of a builder holds what came of them, and
the report tells whether no state or several were marked as the initial one, unless it has to show
a number with too many digits. -/
theorem Builder.books_of_calls {name faultPin : Argument} {file : Option String} {start : Builder}
    (hstart : Builder.start name faultPin file = .ok start) (calls : List BuilderCall) :
    let past := moments BuilderCall.perform start calls
    let builder := calls.foldl BuilderCall.perform start
    let markings := (past.filterMap BuilderCall.marked?).length
    builder.Books past ∧
      ((builder.program.hasWideFaultPin || builder.program.hasWideMarkings) = true →
        builder.program.validate = .error .numeralTooWide) ∧
      ((builder.program.hasWideFaultPin || builder.program.hasWideMarkings) = false →
        ∃ report, builder.program.validate = .ok report ∧
          (.missingInitialState ∈ report.codes ↔ markings = 0) ∧
          (.multipleInitialStates ∈ report.codes ↔ 2 ≤ markings)) := by
  intro past builder markings
  have hbooks : builder.Books past := (Books.start hstart).run calls
  refine ⟨hbooks, Program.validate_eq_error, ?_⟩
  intro hwide
  obtain ⟨hpin, hmarkings⟩ := Bool.or_eq_false_iff.1 hwide
  refine ⟨_, (Program.validate_eq_ok_iff _ _).2 ⟨hpin, hmarkings, rfl⟩, ?_, ?_⟩
  · rw [Program.missingInitialState_mem_codes_iff hbooks.registry,
      hbooks.hasInitialState_eq_false_iff]
  · rw [Program.multipleInitialStates_mem_codes_iff hbooks.registry,
      hbooks.hasSeveralMarkings_iff]

/-- Two states are marked as the initial one, and the calls in between are refused: the first before
it resolves its line, the others after that. -/
def disorderlyCalls : List BuilderCall :=
  [.setLine (some 3),
    .registerResource (.integer 4) (.ok .actuator) (.text "lamp") {},
    .makeState (.text "off") (.ok []) (.ok []) true { line := some 12 },
    .registerResource (.integer 5) (.error (.unknownKind "ResourceKind" "'motor'")) (.text "fan")
      { line := some 90 },
    .registerResource (.integer (-1)) (.ok .sensor) (.text "key") { line := some 40 },
    .setLine none,
    .makeState .nothing (.ok []) (.ok []) true {},
    .makeFaultState (.text "broken") (.integer 0) { line := some 8 },
    .makeState (.text "on") (.ok []) (.ok []) true {}]

namespace Builder

theorem disorderlyCalls_books :
    ∃ start, Builder.start (.text "Lamp") .nothing none = .ok start ∧
      let past := moments BuilderCall.perform start disorderlyCalls
      let builder := disorderlyCalls.foldl BuilderCall.perform start
      builder.Books past ∧ builder.program.endLine = some 40 ∧
        past.filterMap BuilderCall.marked? = ["off", "on"] ∧
        ∃ report, builder.program.validate = .ok report ∧
          .multipleInitialStates ∈ report.codes := by
  have hstart : Builder.start (.text "Lamp") .nothing none =
      .ok { program := { name := "Lamp" } } := rfl
  refine ⟨_, hstart, ?_⟩
  obtain ⟨hbooks, -, hreport⟩ := books_of_calls hstart disorderlyCalls
  obtain ⟨report, hreport, -, hmultiple⟩ := hreport (by decide +kernel)
  exact ⟨hbooks, by decide +kernel, by decide +kernel, report, hreport,
    hmultiple.2 (by decide +kernel)⟩

end Builder

namespace Session

/-- Takes the resources away from a registry, so that it cannot be said whether there are any. -/
def hollow (registry : Datum) : Session Unit :=
  assign registry "_resources" .nothing

/-- The names of a program's states before and after a call, and the fault if it is refused. -/
structure StatesAround where
  before : Option (List String)
  fault : Option Fault
  after : Option (List String)
deriving DecidableEq

def statesAround (view : Workbench → Option Builder) (call : Session Unit) :
    Session StatesAround := do
  let names : Session (Option (List String)) :=
    return (view (← get)).map (·.program.stateNames)
  let before ← names
  let fault ← tryCatch (do call; return none) fun fault ↦ return some fault
  return { before := before, fault := fault, after := ← names }

/-- Makes a state of which it cannot be said whether it is the initial one. -/
def makeUnanswered : Session StatesAround := do
  let registry ← newRegistry
  hollow registry
  let builder ← newBuilder (.text "Lamp") .nothing .nothing .nothing
  statesAround (·.builder? builder) <| discard <|
    makeState builder (.text "idle") (.tuple []) (.tuple []) registry .nothing .nothing

/-- Whether a state is marked is asked only after the state has been listed, so the state stays if
there is no answer. -/
theorem unanswered_marking_listed :
    (outcome makeUnanswered {}).1 =
      .ok ⟨some [], some (.notMeasurable "NoneType"), some ["idle"]⟩ := by
  decide +kernel

end Session

end StateSketch
